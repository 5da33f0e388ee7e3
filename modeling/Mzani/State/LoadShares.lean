import Mzani.State.ConcurrentCalls
import Mzani.State.RoundRobin
import Mzani.Support.CyclicShares

/-!
# Where the load of an unhealthy backend goes

While health does not change, whole rounds of tickets give every healthy backend
its own turns and those of the unhealthy ones immediately before it, in every
interleaving of the calls.
-/

namespace Mzani

open Support

namespace BackendSet

/-- The tickets that calls have drawn, in the order of the calls. -/
def Shared.tickets (shared : Shared) : List Nat :=
  shared.calls.filterMap fun call => call.ticket.map (·.val)

/-- No flag has changed. -/
def KeepsHealth (set : BackendSet) (shared : Shared) : Prop :=
  shared.set.entries.val.map (·.healthy) = set.entries.val.map (·.healthy)

/-- The call has a ticket of the window and has not returned. -/
def Call.pending (start width : Nat) (call : Call) : Bool :=
  call.active && (call.ticket.map (·.val)).any (inWindow start width)

/-- The call has returned the entry for a ticket of the window. -/
def Call.returnsEntry (start width index : Nat) (addr : SocketAddr) : Call → Bool
  | .select (.found ticket found selected) =>
      decide (found = index ∧ selected = addr) && inWindow start width ticket
  | _ => false

/-- At the offset from the ticket, the entry is down. -/
def DownAt (set : BackendSet) (ticket offset : Nat) : Prop :=
  ∃ entry, set.entries.val[scanIndex usizeLimit set.entries.val.length ticket offset]? =
    some entry ∧ entry.healthy = false

/-- What the steps of a call have passed, while health has not changed. -/
def Call.Traced (set : BackendSet) : Call → Prop
  | .select (.scanning ticket offset) => ∀ earlier < offset, set.DownAt ticket earlier
  | .select (.found ticket index addr) =>
      ∃ offset < set.entries.val.length,
        index = scanIndex usizeLimit set.entries.val.length ticket offset ∧
          (∀ earlier < offset, set.DownAt ticket earlier) ∧
          ∃ entry, set.entries.val[index]? = some entry ∧ entry.healthy = true ∧
            entry.addr = addr
  | .select (.exhausted ticket) =>
      ∀ offset < set.entries.val.length, set.DownAt ticket offset
  | _ => True

structure ShareInvariant (set : BackendSet) (shared : Shared) : Prop where
  addresses : shared.set.addresses = set.addresses
  drawn : shared.tickets.Perm (handedOut usizeLimit set.nextIndex shared.tickets.length)
  next : shared.set.nextIndex.val = (set.nextIndex + shared.tickets.length) % usizeLimit
  traced : ∀ call ∈ shared.calls, call.Traced set

variable {set next : BackendSet} {shared : Shared} {actions : List CallAction}

/-! ## Tickets -/

theorem ticket_entered {call : Call} (entered : call.entered = true) : call.ticket = none := by
  cases call with
  | probe ok addr threshold step => rfl
  | select step =>
      simp only [Call.entered, decide_eq_true_eq] at entered
      subst entered
      rfl

/-- A step draws the next ticket, or none. -/
theorem SharedSteps.tickets {next : Shared} (steps : SharedSteps shared next) :
    (next.tickets = shared.tickets ∧ next.set.nextIndex = shared.set.nextIndex) ∨
      (next.tickets.Perm (shared.tickets ++ [shared.set.nextIndex.val]) ∧
        next.set.nextIndex = shared.set.nextIndex + 1) := by
  cases steps with
  | @call call entered =>
      left
      constructor
      · simp [Shared.tickets, List.filterMap_append, ticket_entered entered]
      · rfl
  | @select number step after next found selects =>
      cases selects with
      | draw nonempty =>
          right
          constructor
          · exact filterMap_set_perm found rfl rfl
          · rfl
      | empty => exact .inl ⟨filterMap_set_same found rfl, rfl⟩
      | find => exact .inl ⟨filterMap_set_same found rfl, rfl⟩
      | skip => exact .inl ⟨filterMap_set_same found rfl, rfl⟩
      | exhaust => exact .inl ⟨filterMap_set_same found rfl, rfl⟩
  | probe found _ nextIndex => exact .inl ⟨filterMap_set_same found rfl, nextIndex⟩

/-! ## Scans -/

/-- While health has not changed, the entry at an index is as it was. -/
theorem initial_entry (addresses : shared.set.addresses = set.addresses)
    (keeps : KeepsHealth set shared) {index : Nat} {entry : BackendEntry}
    (found : shared.set.entries.val[index]? = some entry) :
    ∃ first, set.entries.val[index]? = some first ∧ first.healthy = entry.healthy ∧
      first.addr = entry.addr := by
  have healths := congrArg (·[index]?) keeps
  have addrs := congrArg (·[index]?) addresses
  simp only [BackendSet.addresses, List.getElem?_map, found, Option.map_some] at healths addrs
  obtain ⟨first, atIndex, sameHealth⟩ := Option.map_eq_some_iff.mp healths.symm
  rw [atIndex, Option.map_some, Option.some.injEq] at addrs
  exact ⟨first, atIndex, sameHealth, addrs.symm⟩

theorem ShareInvariant.length (invariant : ShareInvariant set shared) :
    shared.set.entries.val.length = set.entries.val.length := by
  have same := congrArg List.length invariant.addresses
  simpa [BackendSet.addresses] using same

/-- The next step of a selection passes an entry, or returns one. -/
theorem ShareInvariant.traced_select {number : Nat} {step after : SelectStep}
    (invariant : ShareInvariant set shared) (keeps : KeepsHealth set shared)
    (found : shared.calls[number]? = some (.select step))
    (selects : Selects shared.set step next after) : (Call.select after).Traced set := by
  have before := invariant.traced _ (List.mem_of_getElem? found)
  cases selects with
  | empty => trivial
  | draw =>
      intro earlier impossible
      cases impossible
  | @find ticket offset entry inside atIndex healthy =>
      obtain ⟨first, atFirst, sameHealth, sameAddr⟩ :=
        initial_entry invariant.addresses keeps atIndex
      rw [invariant.length] at inside atFirst ⊢
      rw [healthy] at sameHealth
      exact ⟨offset, inside, rfl, before, first, atFirst, sameHealth, sameAddr⟩
  | @skip ticket offset entry inside atIndex unhealthy =>
      intro earlier upTo
      rcases Nat.lt_succ_iff_lt_or_eq.mp upTo with already | now
      · exact before earlier already
      · subst earlier
        obtain ⟨first, atFirst, sameHealth, _⟩ :=
          initial_entry invariant.addresses keeps atIndex
        rw [invariant.length] at atFirst
        rw [unhealthy] at sameHealth
        exact ⟨first, atFirst, sameHealth⟩
  | exhaust through =>
      rw [invariant.length] at through
      intro offset inside
      exact before offset (Nat.lt_of_lt_of_le inside through)

theorem traced_entered {call : Call} (entered : call.entered = true) : call.Traced set := by
  cases call with
  | probe ok addr threshold step => trivial
  | select step =>
      simp only [Call.entered, decide_eq_true_eq] at entered
      subst entered
      trivial

theorem ShareInvariant.traced_step {next : Shared} (invariant : ShareInvariant set shared)
    (keeps : KeepsHealth set shared) (steps : SharedSteps shared next) :
    ∀ call ∈ next.calls, call.Traced set := by
  intro call member
  cases steps with
  | call entered =>
      rcases List.mem_append.mp member with before | now
      · exact invariant.traced call before
      · obtain rfl := List.mem_singleton.mp now
        exact traced_entered entered
  | select found selects =>
      rcases List.mem_or_eq_of_mem_set member with before | rfl
      · exact invariant.traced call before
      · exact invariant.traced_select keeps found selects
  | probe found =>
      rcases List.mem_or_eq_of_mem_set member with before | rfl
      · exact invariant.traced call before
      · trivial

theorem ShareInvariant.step {next : Shared} (invariant : ShareInvariant set shared)
    (keeps : KeepsHealth set shared) (steps : SharedSteps shared next) :
    ShareInvariant set next := by
  rcases steps.tickets with ⟨same, nextIndex⟩ | ⟨drew, nextIndex⟩
  · constructor
    case addresses => rw [steps.addresses, invariant.addresses]
    case drawn => rw [same]; exact invariant.drawn
    case next => rw [same, nextIndex]; exact invariant.next
    case traced => exact invariant.traced_step keeps steps
  · have oneMore : next.tickets.length = shared.tickets.length + 1 := by
      rw [drew.length_eq, List.length_append, List.length_singleton]
    constructor
    case addresses => rw [steps.addresses, invariant.addresses]
    case drawn =>
        rw [oneMore, handedOut_succ, ← invariant.next]
        exact drew.trans (invariant.drawn.append_right _)
    case next =>
        have one : ((1 : Usize) : Nat) = 1 := rfl
        rw [nextIndex, Fin.val_add, one, invariant.next, oneMore, Nat.mod_add_mod,
          Nat.add_assoc]
    case traced => exact invariant.traced_step keeps steps

theorem shareInvariant_unused (set : BackendSet) : ShareInvariant set (unused set) := by
  constructor
  · rfl
  · exact List.Perm.refl _
  · exact (Nat.mod_eq_of_lt set.nextIndex.isLt).symm
  · intro call member
    cases member

theorem shareInvariant_run {final : Shared}
    (run : Shared.machine.run (unused set) actions = some final)
    (fixed : Shared.machine.Throughout (unused set) actions (KeepsHealth set)) :
    ShareInvariant set final := by
  apply fixed.run_induction (fun _ => ShareInvariant set) (shareInvariant_unused set) _ run
  intro _ shared action next _ _ keeps _ invariant taken
  exact invariant.step keeps (sharedSteps_of_step taken)

/-! ## Shares -/

/-- A scan far from the limit goes up from its ticket. -/
theorem DownAt.rejected {ticket offset : Nat} (noWrap : ticket + offset < usizeLimit)
    (down : set.DownAt ticket offset) : ∃ entry,
      set.entries.val[(ticket + offset) % set.entries.val.length]? = some entry ∧
        entry.healthy = false := by
  rwa [DownAt, scanIndex_of_lt noWrap] at down

variable {start width index ticket found : Nat} {call : Call}

/-- The call that has returned for a ticket returns the entry exactly if the
ticket is on the entry or on an unhealthy one before it. -/
theorem Call.Traced.returnsEntry_eq (traced : call.Traced set)
    (inside : index < set.entries.val.length)
    (healthy : set.entries.val[index].healthy = true)
    (noWrap : start + width + set.entries.val.length ≤ usizeLimit)
    (returned : call.pending start width = false) :
    call.returnsEntry start width index set.entries.val[index].addr =
      ((call.ticket.map (·.val)).map fun ticket =>
        decide (∃ distance ≤ rejectedBefore (·.healthy) set.entries.val index,
          (ticket + distance) % set.entries.val.length = index) &&
            inWindow start width ticket).getD false := by
  cases call with
  | probe ok addr threshold step => rfl
  | select step =>
      cases step with
      | entered => rfl
      | empty => rfl
      | scanning ticket offset =>
          have outside : inWindow start width ticket = false := by
            simpa [Call.pending, Call.active, SelectStep.result, Call.ticket,
              SelectStep.ticket] using returned
          simp [Call.returnsEntry, Call.ticket, SelectStep.ticket, outside]
      | exhausted ticket =>
          have outside : inWindow start width ticket = false := by
            by_contra within
            rw [Bool.not_eq_false, inWindow, decide_eq_true_eq] at within
            obtain ⟨offset, offsetInside, reached⟩ := exists_offset ticket.val inside
            obtain ⟨entry, atIndex, down⟩ :=
              (traced offset offsetInside).rejected (by omega)
            rw [reached, List.getElem?_eq_getElem inside, Option.some.injEq] at atIndex
            rw [atIndex, down] at healthy
            cases healthy
          simp [Call.returnsEntry, Call.ticket, SelectStep.ticket, outside]
      | found ticket position addr =>
          obtain ⟨offset, offsetInside, reached, passed, entry, atPosition, up, same⟩ := traced
          by_cases within : inWindow start width ticket = true
          · have bounds := within
            rw [inWindow, decide_eq_true_eq] at bounds
            rw [scanIndex_of_lt (by omega)] at reached
            have first : FirstAt BackendEntry.healthy set.entries.val ticket offset := by
              constructor
              · exact offsetInside
              · rw [← reached]
                exact ⟨entry, atPosition, up⟩
              · intro earlier before
                exact (passed earlier before).rejected (by omega)
            have exactly := first.index_iff inside healthy
            rw [← reached] at exactly
            have sameAddr : position = index → addr = set.entries.val[index].addr := by
              intro samePosition
              subst samePosition
              rw [List.getElem?_eq_getElem inside, Option.some.injEq] at atPosition
              rw [atPosition, same]
            simp only [Call.returnsEntry, Call.ticket, SelectStep.ticket, Option.map_some,
              Option.getD_some, within, Bool.and_true]
            rw [decide_eq_decide, ← exactly]
            exact and_iff_left_of_imp sameAddr
          · rw [Bool.not_eq_true] at within
            simp [Call.returnsEntry, Call.ticket, SelectStep.ticket, within]

/-- Counting calls is counting their tickets. -/
theorem ShareInvariant.countP_returnsEntry (invariant : ShareInvariant set shared)
    (inside : index < set.entries.val.length)
    (healthy : set.entries.val[index].healthy = true)
    (noWrap : start + width + set.entries.val.length ≤ usizeLimit)
    (returned : ∀ call ∈ shared.calls, call.pending start width = false) :
    shared.calls.countP (Call.returnsEntry start width index set.entries.val[index].addr) =
      (shared.tickets.filter (inWindow start width)).countP fun ticket =>
        decide (∃ distance ≤ rejectedBefore (·.healthy) set.entries.val index,
          (ticket + distance) % set.entries.val.length = index) := by
  rw [List.countP_filter, Shared.tickets, List.countP_filterMap]
  apply List.countP_congr
  intro call member
  rw [(invariant.traced call member).returnsEntry_eq inside healthy noWrap
    (returned call member)]

/-- Over whole rounds of tickets, a healthy entry is returned once a round for
itself and once for each unhealthy entry immediately before it. -/
theorem returned_share {final : Shared} {start rounds : Nat}
    (run : Shared.machine.run (unused set) actions = some final)
    (fixed : Shared.machine.Throughout (unused set) actions (KeepsHealth set))
    (inside : index < set.entries.val.length)
    (healthy : set.entries.val[index].healthy = true)
    (noWrap : start + (rounds + 1) * set.entries.val.length < usizeLimit)
    (callers : (final.tickets.filter
      (inWindow start (set.entries.val.length * rounds))).length =
        set.entries.val.length * rounds)
    (returned : ∀ call ∈ final.calls,
      call.pending start (set.entries.val.length * rounds) = false) :
    let share := final.calls.countP (Call.returnsEntry start
      (set.entries.val.length * rounds) index set.entries.val[index].addr)
    share = rounds * (1 + rejectedBefore (·.healthy) set.entries.val index) ∧
      ((∀ entry ∈ set.entries.val, entry.healthy = true) → share = rounds) := by
  have invariant := shareInvariant_run run fixed
  have room : start + set.entries.val.length * rounds + set.entries.val.length ≤
      usizeLimit := by
    rw [Nat.add_mul, Nat.one_mul, Nat.mul_comm rounds] at noWrap
    omega
  have handed := invariant.drawn.filter
    (inWindow start (set.entries.val.length * rounds))
  rw [handed.length_eq] at callers
  have once := handed.trans (window_perm (by omega) callers)
  have share := invariant.countP_returnsEntry inside healthy room returned
  rw [once.countP_eq, countP_share inside healthy] at share
  constructor
  · exact share
  · intro allHealthy
    have exact := rejectedBefore_eq_zero allHealthy index
    rw [share, exact, Nat.add_zero, Nat.mul_one]

/-! ## Only selections -/

def Call.isSelection : Call → Bool
  | .select _ => true
  | .probe _ _ _ _ => false

def CallAction.selects : CallAction → Bool
  | .call call => call.isSelection
  | .advance _ => true

/-- The entries are those of the set, and nobody records a probe. -/
def OnlySelected (set : BackendSet) (shared : Shared) : Prop :=
  shared.set.entries = set.entries ∧ ∀ call ∈ shared.calls, call.isSelection = true

theorem Selects.entries {step after : SelectStep} (selects : Selects set step next after) :
    next.entries = set.entries := by
  cases selects <;> rfl

theorem OnlySelected.step {action : CallAction} {next : Shared}
    (only : OnlySelected set shared) (selects : action.selects = true)
    (taken : shared.step action = some next) : OnlySelected set next := by
  obtain ⟨entries, calls⟩ := only
  rcases Shared.step_cases taken with ⟨call, entered, rfl⟩ |
    ⟨number, step, after, other, found, selected, rfl⟩ |
    ⟨number, ok, addr, threshold, step, after, other, found, _, rfl⟩
  · constructor
    · exact entries
    · intro other member
      rcases List.mem_append.mp member with before | now
      · exact calls other before
      · cases action with
        | call made =>
            simp only [Shared.step] at taken
            split at taken
            case isTrue =>
                have same := congrArg Shared.calls (Option.some.inj taken)
                simp only [List.append_cancel_left_eq, List.cons.injEq, and_true] at same
                obtain rfl := List.mem_singleton.mp now
                rw [← same]
                exact selects
            case isFalse => cases taken
        | advance number =>
            simp only [Shared.step] at taken
            split at taken
            · cases taken
            · split at taken
              · cases taken
              · have same := congrArg (fun shared => shared.calls.length)
                  (Option.some.inj taken)
                simp at same
  · constructor
    · exact selected.entries.trans entries
    · intro other member
      rcases List.mem_or_eq_of_mem_set member with before | rfl
      · exact calls other before
      · rfl
  · have probe := calls _ (List.mem_of_getElem? found)
    cases probe

/-- Selections change no flag. -/
theorem keepsHealth_of_selects (selects : ∀ action ∈ actions, action.selects = true) :
    Shared.machine.Throughout (unused set) actions (KeepsHealth set) := by
  rintro before after middle rfl run
  have only : (∀ action ∈ before, action.selects = true) → OnlySelected set middle := by
    apply Machine.run_induction (fun taken shared =>
      (∀ action ∈ taken, action.selects = true) → OnlySelected set shared) _ _ run
    · intro _
      exact ⟨rfl, fun call member => nomatch member⟩
    · intro earlier shared action next before taken all
      apply OnlySelected.step _ (all action (by simp)) taken
      apply before
      intro other member
      exact all other (List.mem_append_left _ member)
  obtain ⟨entries, _⟩ := only fun action member =>
    selects action (List.mem_append_left after member)
  rw [KeepsHealth, entries]

/-- Three selections on three backends of which the first is down, the second
one before the first has finished. -/
def overlapping : List CallAction :=
  [.call (.select .entered), .call (.select .entered), .advance 0, .advance 1, .advance 1,
    .call (.select .entered), .advance 2, .advance 0, .advance 2, .advance 0]

/-- The second backend also gets the turn of the first. -/
theorem returned_share_overlapping :
    ∃ final, Shared.machine.run (unused firstDown) overlapping = some final ∧
      final.calls.countP (Call.returnsEntry 0 3 1 (.v4 localhost 9001)) = 2 := by
  obtain ⟨final, run⟩ : ∃ final,
      Shared.machine.run (unused firstDown) overlapping = some final :=
    Option.isSome_iff_exists.mp (by decide +kernel)
  have facts : (Shared.machine.run (unused firstDown) overlapping).map (fun final =>
      ((final.tickets.filter (inWindow 0 3)).length,
        final.calls.all fun call => !call.pending 0 3)) = some (3, true) := by
    decide +kernel
  rw [run, Option.map_some, Option.some.injEq, Prod.mk.injEq, List.all_eq_true] at facts
  have inside : 1 < firstDown.entries.val.length := by decide +kernel
  have healthy : firstDown.entries.val[1].healthy = true := by
    decide +kernel +revert
  have noWrap : 0 + (1 + 1) * firstDown.entries.val.length < usizeLimit := by decide +kernel
  have returned : ∀ call ∈ final.calls, call.pending 0 3 = false := by
    intro call member
    simpa using facts.2 call member
  have share := (returned_share run (keepsHealth_of_selects (by decide)) inside healthy noWrap
    facts.1 returned).1
  have before : rejectedBefore (·.healthy) firstDown.entries.val 1 = 1 := by decide +kernel
  rw [before] at share
  exact ⟨final, run, share⟩

end BackendSet

end Mzani
