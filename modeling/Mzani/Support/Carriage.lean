import Mzani.Support.Channel

/-!
# What a channel carries

Items that are sent to a channel and items that are received from it over a
whole run.  What is received, and then what is queued, is what was queued before
and then what was sent, without the items that were refused.
-/

namespace Support

universe u

namespace Channel

variable {α : Type u}

/-- Nobody has gone. -/
structure Alive (channel : Channel α) : Prop where
  receiver : channel.receiver = true
  senders : channel.senders ≠ 0

/-- Between the two states the first items were sent, so many of them were
refused, and the second items were received. -/
structure Carries (channel next : Channel α) (sent received : List α) (refused : Nat) :
    Prop where
  order : ∃ taken, taken.Sublist sent ∧ taken.length + refused = sent.length ∧
    received ++ next.queue = channel.queue ++ taken
  alive : channel.Alive → next.Alive

variable {channel next : Channel α} {sent received : List α} {refused : Nat} {item : α}

theorem Open.alive {capacity : Nat} {queue : List α} (opened : channel.Open capacity queue) :
    channel.Alive :=
  ⟨opened.receiver, opened.senders⟩

theorem Carries.refl (channel : Channel α) : channel.Carries channel [] [] 0 where
  order := ⟨[], List.nil_sublist [], rfl, by simp⟩
  alive := id

theorem Carries.trans {last : Channel α} {more later : List α} {further : Nat}
    (first : channel.Carries next sent received refused)
    (second : next.Carries last more later further) :
    channel.Carries last (sent ++ more) (received ++ later) (refused + further) where
  order := by
    obtain ⟨taken, sublist, count, order⟩ := first.order
    obtain ⟨others, sublistThen, countThen, orderThen⟩ := second.order
    refine ⟨taken ++ others, sublist.append sublistThen, ?_, ?_⟩
    · rw [List.length_append, List.length_append]
      omega
    · rw [List.append_assoc, orderThen, ← List.append_assoc, order, List.append_assoc]
  alive := fun alive => second.alive (first.alive alive)

theorem Sent.carries (sends : channel.Sent item next) : channel.Carries next [item] [] 0 where
  order := ⟨[item], List.Sublist.refl _, rfl, by rw [List.nil_append, sends.queue]⟩
  alive := fun alive =>
    ⟨sends.sameReceiver.trans alive.receiver, fun none => alive.senders (sends.sameSenders ▸ none)⟩

/-- An item that is refused leaves the channel as it is. -/
theorem carries_refused (channel : Channel α) (item : α) :
    channel.Carries channel [item] [] 1 where
  order := ⟨[], List.nil_sublist _, rfl, by simp⟩
  alive := id

theorem Received.carries (receives : channel.Received item next) :
    channel.Carries next [] [item] 0 where
  order := ⟨[], List.nil_sublist _, rfl, by simp [receives.queue]⟩
  alive := fun alive =>
    ⟨receives.sameReceiver.trans alive.receiver,
      fun none => alive.senders (receives.sameSenders ▸ none)⟩

/-- A channel with a receiver takes an item or is full. -/
theorem Alive.trySend (alive : channel.Alive) (item : α) :
    (∃ next, channel.trySend item = .sent next ∧ channel.Carries next [item] [] 0) ∨
      channel.trySend item = .full := by
  cases answer : channel.trySend item with
  | sent next => exact .inl ⟨next, rfl, (sent_of_trySend answer).carries⟩
  | full => exact .inr rfl
  | disconnected =>
      have gone := receiver_of_trySend answer
      rw [alive.receiver] at gone
      cases gone

end Channel

end Support
