import Mathlib.Data.List.Basic

/-!
# Bounded channels

A bounded first-in first-out channel with counted senders and one receiver.
It delivers what is queued before it reports that all senders are gone.  The
history of a channel is part of it: what it has accepted is what has been
received followed by what is queued.
-/

namespace Support

universe u

structure Channel (α : Type u) where
  capacity : Nat
  queue : List α
  senders : Nat
  receiver : Bool
  accepted : List α
  received : List α
  positive : 0 < capacity
  bounded : queue.length ≤ capacity
  fifo : accepted = received ++ queue

namespace Channel

variable {α : Type u}

/-- `sync_channel`: the ends of a new channel are one sender and the receiver. -/
def sync (capacity : Nat) (positive : 0 < capacity) : Channel α where
  capacity := capacity
  queue := []
  senders := 1
  receiver := true
  accepted := []
  received := []
  positive := positive
  bounded := Nat.zero_le capacity
  fifo := rfl

def cloneSender (channel : Channel α) : Channel α :=
  { channel with senders := channel.senders + 1 }

def dropSender (channel : Channel α) : Channel α :=
  { channel with senders := channel.senders - 1 }

/-- An owner with room for a sender is left without one. -/
def dropSenderIf (channel : Channel α) (held : Bool) : Channel α :=
  if held = true then channel.dropSender else channel

/-- The receiver goes; what is still queued is never received. -/
def dropReceiver (channel : Channel α) : Channel α :=
  { channel with receiver := false }

/-- Queue an item. -/
def push (channel : Channel α) (item : α) (room : channel.queue.length < channel.capacity) :
    Channel α :=
  { channel with
    queue := channel.queue ++ [item]
    accepted := channel.accepted ++ [item]
    bounded := by
      rw [List.length_append, List.length_singleton]
      exact room
    fifo := by rw [channel.fifo, List.append_assoc] }

/-- The outcome of `try_send`. -/
inductive TrySend (α : Type u) where
  | sent (channel : Channel α)
  | full
  | disconnected

def trySend (channel : Channel α) (item : α) : TrySend α :=
  if channel.receiver = false then .disconnected
  else if room : channel.queue.length < channel.capacity then .sent (channel.push item room)
  else .full

/-- The state of a channel after an attempt to send. -/
def trySendOrDrop (channel : Channel α) (item : α) : Channel α :=
  match channel.trySend item with
  | .sent next => next
  | .full => channel
  | .disconnected => channel

/-- The outcome of `recv`; it blocks on an empty channel with senders. -/
inductive Recv (α : Type u) where
  | item (item : α) (channel : Channel α)
  | disconnected
  | blocked

def recv (channel : Channel α) : Recv α :=
  match pending : channel.queue with
  | [] => if channel.senders = 0 then .disconnected else .blocked
  | item :: rest =>
      .item item
        { channel with
          queue := rest
          received := channel.received ++ [item]
          bounded := by
            have bound := channel.bounded
            rw [pending, List.length_cons] at bound
            omega
          fifo := by rw [channel.fifo, pending, List.append_cons] }

section

variable {channel next : Channel α} {item : α}

@[simp] theorem senders_cloneSender :
    channel.cloneSender.senders = channel.senders + 1 := rfl

@[simp] theorem queue_cloneSender : channel.cloneSender.queue = channel.queue := rfl

@[simp] theorem senders_dropSender :
    channel.dropSender.senders = channel.senders - 1 := rfl

@[simp] theorem queue_dropSender : channel.dropSender.queue = channel.queue := rfl

@[simp] theorem capacity_dropSender : channel.dropSender.capacity = channel.capacity := rfl

@[simp] theorem receiver_dropSender : channel.dropSender.receiver = channel.receiver := rfl

@[simp] theorem senders_dropReceiver : channel.dropReceiver.senders = channel.senders := rfl

@[simp] theorem queue_dropReceiver : channel.dropReceiver.queue = channel.queue := rfl

@[simp] theorem capacity_dropReceiver :
    channel.dropReceiver.capacity = channel.capacity := rfl

@[simp] theorem receiver_dropReceiver : channel.dropReceiver.receiver = false := rfl

@[simp] theorem senders_dropSenderIf (held : Bool) :
    (channel.dropSenderIf held).senders = channel.senders - held.toNat := by
  cases held <;> rfl

/-- What a successful send does to a channel. -/
structure Sent (channel : Channel α) (item : α) (next : Channel α) : Prop where
  receiver : channel.receiver = true
  queue : next.queue = channel.queue ++ [item]
  accepted : next.accepted = channel.accepted ++ [item]
  sameSenders : next.senders = channel.senders
  sameReceiver : next.receiver = channel.receiver
  sameCapacity : next.capacity = channel.capacity

theorem sent_of_trySend (answer : channel.trySend item = .sent next) :
    channel.Sent item next := by
  unfold trySend at answer
  split at answer
  case isTrue => cases answer
  case isFalse alive =>
      split at answer
      · cases answer
        exact ⟨by simpa using alive, rfl, rfl, rfl, rfl, rfl⟩
      · cases answer

/-- Sending leaves what has been received alone. -/
theorem Sent.sameReceived (sent : channel.Sent item next) : next.received = channel.received := by
  have before := channel.fifo
  have after := next.fifo
  rw [sent.accepted, sent.queue, before, List.append_assoc] at after
  exact (List.append_cancel_right after).symm

theorem trySend_eq_full_iff :
    channel.trySend item = .full ↔
      channel.receiver = true ∧ channel.queue.length = channel.capacity := by
  have bound := channel.bounded
  unfold trySend
  split
  case isTrue gone => simp [gone]
  case isFalse alive =>
      have present : channel.receiver = true := by simpa using alive
      split
      case isTrue room => simp [Nat.ne_of_lt room]
      case isFalse none =>
          simp only [present, true_and, true_iff]
          omega

theorem receiver_of_trySend (answer : channel.trySend item = .disconnected) :
    channel.receiver = false := by
  unfold trySend at answer
  split at answer
  case isTrue gone => exact gone
  case isFalse =>
      split at answer <;> cases answer

/-- What receiving an item does to a channel. -/
structure Received (channel : Channel α) (item : α) (next : Channel α) : Prop where
  queue : channel.queue = item :: next.queue
  received : next.received = channel.received ++ [item]
  sameSenders : next.senders = channel.senders
  sameReceiver : next.receiver = channel.receiver
  sameCapacity : next.capacity = channel.capacity
  sameAccepted : next.accepted = channel.accepted

theorem received_of_recv (answer : channel.recv = .item item next) :
    channel.Received item next := by
  unfold recv at answer
  split at answer
  · split at answer <;> cases answer
  case h_2 first rest pending =>
      cases answer
      exact ⟨pending, rfl, rfl, rfl, rfl, rfl⟩

/-- The first item is received next. -/
theorem exists_recv {rest : List α} (pending : channel.queue = item :: rest) :
    ∃ next, channel.recv = .item item next ∧ next.queue = rest := by
  cases answer : channel.recv with
  | item first next =>
      have same := (received_of_recv answer).queue.symm.trans pending
      injection same with sameItem sameRest
      subst sameItem
      exact ⟨next, rfl, sameRest⟩
  | _ =>
      unfold recv at answer
      split at answer
      case h_1 empty =>
          rw [pending] at empty
          cases empty
      case h_2 => cases answer

theorem recv_eq_disconnected_iff :
    channel.recv = .disconnected ↔ channel.queue = [] ∧ channel.senders = 0 := by
  unfold recv
  split
  case h_1 pending =>
      by_cases gone : channel.senders = 0
      · simp [gone, pending]
      · simp [gone]
  case h_2 first rest pending => simp [pending]

/-- Receiving does not block once all senders are gone. -/
theorem recv_ne_blocked (gone : channel.senders = 0) : channel.recv ≠ .blocked := by
  unfold recv
  split
  · simp [gone]
  · simp

/-- Once the queue of a channel is empty, all that it accepted is received. -/
theorem received_of_empty (empty : channel.queue = []) :
    channel.accepted = channel.received := by
  rw [channel.fifo, empty, List.append_nil]

/-- An attempt to send queues the item or leaves the channel as it is. -/
theorem trySendOrDrop_cases (channel : Channel α) (item : α) :
    channel.Sent item (channel.trySendOrDrop item) ∨
      channel.trySendOrDrop item = channel := by
  unfold trySendOrDrop
  cases answer : channel.trySend item with
  | sent next => exact .inl (sent_of_trySend answer)
  | full => exact .inr rfl
  | disconnected => exact .inr rfl

@[simp] theorem senders_trySendOrDrop :
    (channel.trySendOrDrop item).senders = channel.senders := by
  rcases channel.trySendOrDrop_cases item with sent | same
  · exact sent.sameSenders
  · rw [same]

theorem trySendOrDrop_of_gone (gone : channel.receiver = false) :
    channel.trySendOrDrop item = channel := by
  rcases channel.trySendOrDrop_cases item with sent | same
  · rw [sent.receiver] at gone
    cases gone
  · exact same

/-- The capacity and the number of senders are the same. -/
structure SameEnds (channel next : Channel α) : Prop where
  capacity : next.capacity = channel.capacity
  senders : next.senders = channel.senders

theorem SameEnds.refl (channel : Channel α) : channel.SameEnds channel := ⟨rfl, rfl⟩

theorem SameEnds.trans {last : Channel α} (first : channel.SameEnds next)
    (second : next.SameEnds last) : channel.SameEnds last :=
  ⟨second.capacity.trans first.capacity, second.senders.trans first.senders⟩

theorem Received.sameEnds (received : channel.Received item next) : channel.SameEnds next :=
  ⟨received.sameCapacity, received.sameSenders⟩

theorem sameEnds_trySendOrDrop (channel : Channel α) (item : α) :
    channel.SameEnds (channel.trySendOrDrop item) := by
  rcases channel.trySendOrDrop_cases item with sent | same
  · exact ⟨sent.sameCapacity, sent.sameSenders⟩
  · rw [same]
    exact .refl channel

theorem sameEnds_foldl (channel : Channel α) (items : List α) :
    channel.SameEnds (items.foldl trySendOrDrop channel) := by
  induction items generalizing channel with
  | nil => exact .refl channel
  | cons item items ih => exact (sameEnds_trySendOrDrop channel item).trans (ih _)

/-- So many items are queued, or as many as may be. -/
structure Holds (channel : Channel α) (count : Nat) : Prop where
  receiver : channel.receiver = true
  queue : min count channel.capacity ≤ channel.queue.length

theorem Holds.mono {count fewer : Nat} (holds : channel.Holds count) (le : fewer ≤ count) :
    channel.Holds fewer := by
  have queued := holds.queue
  exact ⟨holds.receiver, by omega⟩

/-- A full channel stays full, and another one takes the item. -/
theorem Holds.trySendOrDrop {count : Nat} (holds : channel.Holds count) (item : α) :
    (channel.trySendOrDrop item).Holds (count + 1) := by
  have queued := holds.queue
  unfold Channel.trySendOrDrop
  cases answer : channel.trySend item with
  | sent next =>
      have sent := sent_of_trySend answer
      constructor
      · exact sent.sameReceiver.trans holds.receiver
      · dsimp only
        rw [sent.queue, sent.sameCapacity, List.length_append, List.length_singleton]
        omega
  | full =>
      have full := (trySend_eq_full_iff.mp answer).2
      constructor
      · exact holds.receiver
      · dsimp only
        omega
  | disconnected =>
      have gone := receiver_of_trySend answer
      rw [holds.receiver] at gone
      cases gone

theorem Holds.foldl {count : Nat} (holds : channel.Holds count) (items : List α) :
    (items.foldl Channel.trySendOrDrop channel).Holds (count + items.length) := by
  induction items generalizing channel count with
  | nil => exact holds
  | cons item items ih =>
      have later := ih (holds.trySendOrDrop item)
      rwa [Nat.add_assoc, Nat.add_comm 1] at later

/-- Both ends are there, and these items are queued. -/
structure Open (channel : Channel α) (capacity : Nat) (queue : List α) : Prop where
  capacity : channel.capacity = capacity
  queue : channel.queue = queue
  receiver : channel.receiver = true
  senders : channel.senders ≠ 0

theorem Open.cloneSender {capacity : Nat} {queue : List α} (opened : channel.Open capacity queue) :
    channel.cloneSender.Open capacity queue :=
  ⟨opened.capacity, opened.queue, opened.receiver, Nat.succ_ne_zero channel.senders⟩

theorem open_sync {capacity : Nat} (positive : 0 < capacity) :
    (sync capacity positive : Channel α).Open capacity [] :=
  ⟨rfl, rfl, rfl, Nat.one_ne_zero⟩

theorem Open.holds {capacity : Nat} {queue : List α} (opened : channel.Open capacity queue) :
    channel.Holds queue.length := by
  constructor
  · exact opened.receiver
  · rw [opened.queue]
    exact Nat.min_le_left queue.length channel.capacity

/-- There is room for another item. -/
theorem Open.trySend {capacity : Nat} {queue : List α} (opened : channel.Open capacity queue)
    (room : queue.length < capacity) (item : α) :
    ∃ next, channel.trySend item = .sent next ∧ next.Open capacity (queue ++ [item]) := by
  have fits : channel.queue.length < channel.capacity := by
    rw [opened.queue, opened.capacity]
    exact room
  refine ⟨channel.push item fits, ?_, opened.capacity, ?_, opened.receiver, opened.senders⟩
  · rw [Channel.trySend, if_neg (by simp [opened.receiver]), dif_pos fits]
  · exact congrArg (· ++ [item]) opened.queue

/-- The first item is received. -/
theorem Open.recv {capacity : Nat} {rest : List α}
    (opened : channel.Open capacity (item :: rest)) :
    ∃ next, channel.recv = .item item next ∧ next.Open capacity rest := by
  obtain ⟨next, answer, left⟩ := exists_recv opened.queue
  have received := received_of_recv answer
  refine ⟨next, answer, ?_, left, ?_, ?_⟩
  · rw [received.sameCapacity, opened.capacity]
  · rw [received.sameReceiver, opened.receiver]
  · rw [received.sameSenders]
    exact opened.senders

/-- What has been accepted stays accepted. -/
def Grows (channel next : Channel α) : Prop :=
  channel.accepted <+: next.accepted

theorem Grows.refl (channel : Channel α) : channel.Grows channel :=
  List.prefix_refl channel.accepted

theorem Grows.trans {last : Channel α} (first : channel.Grows next) (second : next.Grows last) :
    channel.Grows last :=
  List.IsPrefix.trans first second

theorem Received.grows (received : channel.Received item next) : channel.Grows next := by
  refine ⟨[], ?_⟩
  rw [List.append_nil, received.sameAccepted]

theorem grows_trySendOrDrop (channel : Channel α) (item : α) :
    channel.Grows (channel.trySendOrDrop item) := by
  rcases channel.trySendOrDrop_cases item with sent | same
  · rw [Grows, sent.accepted]
    exact List.prefix_append channel.accepted [item]
  · rw [same]
    exact .refl channel

theorem grows_dropSenderIf (channel : Channel α) (held : Bool) :
    channel.Grows (channel.dropSenderIf held) := by
  cases held <;> exact .refl channel

/-- Both ends are gone, and nothing was left behind. -/
structure Closed (channel : Channel α) : Prop where
  noReceiver : channel.receiver = false
  noSender : channel.senders = 0
  empty : channel.queue = []

theorem closed_dropReceiver (answer : channel.recv = .disconnected) :
    channel.dropReceiver.Closed := by
  obtain ⟨empty, gone⟩ := recv_eq_disconnected_iff.mp answer
  exact ⟨rfl, gone, empty⟩

theorem Closed.trySendOrDrop (closed : channel.Closed) (item : α) :
    (channel.trySendOrDrop item).Closed := by
  rw [trySendOrDrop_of_gone closed.noReceiver]
  exact closed

theorem Closed.dropSender (closed : channel.Closed) : channel.dropSender.Closed :=
  ⟨closed.noReceiver, by rw [senders_dropSender, closed.noSender], closed.empty⟩

theorem Closed.dropSenderIf (closed : channel.Closed) (held : Bool) :
    (channel.dropSenderIf held).Closed := by
  cases held with
  | true => exact closed.dropSender
  | false => exact closed

end

end Channel

end Support
