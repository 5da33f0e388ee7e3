import Mzani.State.ConcurrentCalls

/-!
# Concurrent selection

A selection reads the flags one after the other while others change them, so
its result holds of moments during the call and of no single snapshot.
-/

namespace Mzani

open Support

namespace BackendSet

/-- The flag of the entry. -/
def Shared.Marked (shared : Shared) (index : Nat) (healthy : Bool) : Prop :=
  ∃ entry, shared.set.entries.val[index]? = some entry ∧ entry.healthy = healthy

/-- No scan wraps, not even with the next ticket. -/
def Shared.BelowLimit (shared : Shared) : Prop :=
  shared.set.nextIndex + shared.set.entries.val.length < usizeLimit

/-- The ticket that the call has drawn. -/
def Shared.ticket (shared : Shared) (number : Nat) : Option Usize :=
  shared.calls[number]?.bind Call.ticket

/-- At some moment between the beginning of the call and its return. -/
def During (set : BackendSet) (actions : List CallAction) (number : Nat)
    (holds : Shared → Prop) : Prop :=
  Shared.machine.Sometime (unused set) actions fun shared =>
    shared.Active number ∧ holds shared

/-- What selections say about health while others change it. -/
structure SoundSelection (set : BackendSet) (actions : List CallAction) (final : Shared) :
    Prop where
  ticketsDistinct : ∀ first second ticket, final.ticket first = some ticket →
    final.ticket second = some ticket → first = second
  healthy : ∀ number start index addr,
    final.calls[number]? = some (.select (.found start index addr)) →
      During set actions number fun shared =>
        ∃ entry, shared.set.entries.val[index]? = some entry ∧ entry.addr = addr ∧
          entry.healthy = true
  unhealthy : ∀ number start, final.calls[number]? = some (.select (.exhausted start)) →
    ∀ index < set.entries.val.length,
      During set actions number fun shared => shared.Marked index false
  ruledOut : ∀ number index, index < set.entries.val.length →
    Shared.machine.Throughout (unused set) actions
      (fun shared => shared.Active number → shared.Marked index true) →
    ∀ start, final.calls[number]? ≠ some (.select (.exhausted start))

variable {set next : BackendSet} {shared : Shared} {actions : List CallAction}

/-! ## What selections know -/

/-- What the steps of a call so far have seen. -/
def Call.Justified (set : BackendSet) (actions : List CallAction) (number : Nat) :
    Call → Prop
  | .select (.scanning start offset) =>
      start + set.entries.val.length < usizeLimit ∧
        ∀ earlier < offset, During set actions number fun shared =>
          shared.Marked ((start + earlier) % set.entries.val.length) false
  | .select (.found _ index addr) =>
      During set actions number fun shared =>
        ∃ entry, shared.set.entries.val[index]? = some entry ∧ entry.addr = addr ∧
          entry.healthy = true
  | .select (.exhausted _) =>
      ∀ index < set.entries.val.length,
        During set actions number fun shared => shared.Marked index false
  | _ => True

structure SelectionInvariant (set : BackendSet) (actions : List CallAction)
    (shared : Shared) : Prop where
  addresses : shared.set.addresses = set.addresses
  drawn : ∀ number ticket, shared.ticket number = some ticket →
    ticket.val < shared.set.nextIndex
  distinct : ∀ first second ticket, shared.ticket first = some ticket →
    shared.ticket second = some ticket → first = second
  justified : ∀ number (call : Call), shared.calls[number]? = some call →
    call.Justified set actions number

theorem SelectionInvariant.length (invariant : SelectionInvariant set actions shared) :
    shared.set.entries.val.length = set.entries.val.length := by
  have same := congrArg List.length invariant.addresses
  simpa [BackendSet.addresses] using same

theorem Call.Justified.append {number : Nat} {call : Call}
    (justified : call.Justified set actions number) (more : List CallAction) :
    call.Justified set (actions ++ more) number := by
  cases call with
  | probe ok addr threshold step => trivial
  | select step =>
      cases step with
      | entered => trivial
      | scanning start offset =>
          exact ⟨justified.1, fun earlier before => (justified.2 earlier before).append more⟩
      | found start index addr => exact Machine.Sometime.append justified more
      | exhausted start => exact fun index inside => (justified index inside).append more
      | empty => trivial

theorem Call.justified_entered {number : Nat} {call : Call} (entered : call.entered = true) :
    call.Justified set actions number := by
  cases call with
  | probe ok addr threshold step => trivial
  | select step =>
      simp only [Call.entered, decide_eq_true_eq] at entered
      subst entered
      trivial

theorem selectionInvariant_unused (set : BackendSet) :
    SelectionInvariant set [] (unused set) := by
  constructor
  · rfl
  · intro number ticket drawn
    simp [Shared.ticket, unused] at drawn
  · intro first second ticket drawn
    simp [Shared.ticket, unused] at drawn
  · intro number call found
    simp [unused] at found

/-- A call that scans is going on. -/
theorem active_of_scanning {number offset : Nat} {start : Usize}
    (found : shared.calls[number]? = some (.select (.scanning start offset))) :
    shared.Active number :=
  ⟨_, found, rfl⟩

/-- Every entry is passed before the scan is through. -/
theorem justified_exhausted {number offset : Nat} {start : Usize}
    (justified : (Call.select (.scanning start offset)).Justified set actions number)
    (through : set.entries.val.length ≤ offset) :
    (Call.select (.exhausted start)).Justified set actions number := by
  intro index inside
  obtain ⟨earlier, before, reached⟩ := exists_offset start.val inside
  rw [← reached]
  apply justified.2 earlier
  exact Nat.lt_of_lt_of_le before through

/-- The next step of a selection sees what its result needs. -/
theorem justified_of_selects {number : Nat} {step after : SelectStep}
    (invariant : SelectionInvariant set actions shared)
    (run : Shared.machine.run (unused set) actions = some shared)
    (below : shared.BelowLimit)
    (found : shared.calls[number]? = some (.select step))
    (selects : Selects shared.set step next after) (more : List CallAction) :
    (Call.select after).Justified set (actions ++ more) number := by
  have before := invariant.justified number _ found
  apply Call.Justified.append
  cases selects with
  | empty => trivial
  | draw nonempty =>
      constructor
      · rw [← invariant.length]
        exact below
      · intro earlier impossible
        cases impossible
  | @find start offset entry _ atIndex healthy =>
      apply Machine.Sometime.now run
      exact ⟨active_of_scanning found, entry, atIndex, rfl, healthy⟩
  | @skip start offset entry inside atIndex unhealthy =>
      refine ⟨before.1, fun earlier upTo => ?_⟩
      rcases Nat.lt_succ_iff_lt_or_eq.mp upTo with already | now
      · exact before.2 earlier already
      · subst earlier
        apply Machine.Sometime.now run
        have inRange : start + offset < usizeLimit := by
          have small := before.1
          rw [invariant.length] at inside
          omega
        rw [Nat.mod_eq_of_lt inRange, invariant.length] at atIndex
        exact ⟨active_of_scanning found, entry, atIndex, unhealthy⟩
  | @exhaust start offset through =>
      apply justified_exhausted before
      rwa [← invariant.length]

/-! ## Tickets -/

theorem ticket_set {number : Nat} {call after : Call} {set : BackendSet}
    (found : shared.calls[number]? = some call) (other : Nat) :
    Shared.ticket { set, calls := shared.calls.set number after } other =
      if other = number then after.ticket else shared.ticket other := by
  obtain ⟨inside, _⟩ := List.getElem?_eq_some_iff.mp found
  unfold Shared.ticket
  rw [List.getElem?_set]
  by_cases same : other = number
  · subst same
    simp [inside]
  · simp [same, Ne.symm same]

/-- A call at its beginning has no ticket. -/
theorem ticket_append {call : Call} (entered : call.entered = true) (number : Nat) :
    Shared.ticket { shared with calls := shared.calls ++ [call] } number =
      shared.ticket number := by
  have noTicket : call.ticket = none := by
    cases call with
    | probe ok addr threshold step => rfl
    | select step =>
        simp only [Call.entered, decide_eq_true_eq] at entered
        subst entered
        rfl
  unfold Shared.ticket
  rcases Nat.lt_trichotomy number shared.calls.length with inside | last | outside
  · simp [List.getElem?_append_left inside]
  · simp [last, noTicket]
  · have behind : (shared.calls ++ [call]).length ≤ number := by
      rw [List.length_append, List.length_singleton]
      exact outside
    simp [List.getElem?_eq_none behind, List.getElem?_eq_none outside.le]

/-- A step draws the next ticket for one call, or none. -/
inductive Draws (shared next : Shared) : Prop where
  | none : (∀ number, next.ticket number = shared.ticket number) →
      next.set.nextIndex = shared.set.nextIndex → Draws shared next
  | ticket (drawer : Nat) : next.ticket drawer = some shared.set.nextIndex →
      (∀ number, number ≠ drawer → next.ticket number = shared.ticket number) →
      next.set.nextIndex.val = shared.set.nextIndex + 1 → Draws shared next

theorem draws_none {number : Nat} {call after : Call}
    (found : shared.calls[number]? = some call) (same : after.ticket = call.ticket)
    (nextIndex : next.nextIndex = shared.set.nextIndex) :
    Draws shared { set := next, calls := shared.calls.set number after } := by
  refine .none (fun other => ?_) nextIndex
  rw [ticket_set found, same]
  split
  case isTrue own => simp [Shared.ticket, own, found]
  case isFalse => rfl

theorem SharedSteps.draws {next : Shared} (steps : SharedSteps shared next)
    (below : shared.BelowLimit) : Draws shared next := by
  cases steps with
  | call entered => exact .none (ticket_append entered) rfl
  | @select number step after next found selects =>
      cases selects with
      | draw nonempty =>
          have positive := Nat.pos_of_ne_zero nonempty
          have room : shared.set.nextIndex.val + 1 < usizeLimit := by
            have limit : shared.set.nextIndex + shared.set.entries.val.length <
              usizeLimit := below
            omega
          refine .ticket number ?_ ?_ ?_
          · rw [ticket_set found, if_pos rfl]
            rfl
          · intro other different
            rw [ticket_set found, if_neg different]
          · have one : ((1 : Usize) : Nat) = 1 := rfl
            rw [Fin.val_add, one, Nat.mod_eq_of_lt room]
      | empty => exact draws_none found rfl rfl
      | find => exact draws_none found rfl rfl
      | skip => exact draws_none found rfl rfl
      | exhaust => exact draws_none found rfl rfl
  | probe found _ nextIndex => exact draws_none found rfl nextIndex

/-! ## Runs -/

/-- One call has moved on, what the others have seen stays. -/
theorem SelectionInvariant.justified_set {number other : Nat} {after call : Call}
    (invariant : SelectionInvariant set actions shared) {action : CallAction}
    (own : after.Justified set (actions ++ [action]) number)
    (found : (shared.calls.set number after)[other]? = some call) :
    call.Justified set (actions ++ [action]) other := by
  rw [List.getElem?_set] at found
  split at found
  case isTrue same =>
      subst same
      split at found
      · cases found
        exact own
      · cases found
  case isFalse => exact (invariant.justified other call found).append [action]

theorem SelectionInvariant.step {action : CallAction} {next : Shared}
    (invariant : SelectionInvariant set actions shared)
    (run : Shared.machine.run (unused set) actions = some shared)
    (below : shared.BelowLimit) (taken : shared.step action = some next) :
    SelectionInvariant set (actions ++ [action]) next := by
  have steps := sharedSteps_of_step taken
  constructor
  case addresses =>
      rw [steps.addresses, invariant.addresses]
  case drawn =>
      intro number ticket drawn
      cases steps.draws below with
      | none same nextIndex =>
          rw [nextIndex]
          apply invariant.drawn number
          rwa [← same]
      | ticket drawer own others nextIndex =>
          rw [nextIndex]
          by_cases mine : number = drawer
          · subst mine
            rw [own, Option.some.injEq] at drawn
            subst drawn
            exact Nat.lt_succ_self _
          · rw [others number mine] at drawn
            exact Nat.lt_succ_of_lt (invariant.drawn number ticket drawn)
  case distinct =>
      intro first second ticket firstDrawn secondDrawn
      cases steps.draws below with
      | none same nextIndex =>
          rw [same] at firstDrawn secondDrawn
          exact invariant.distinct first second ticket firstDrawn secondDrawn
      | ticket drawer own others nextIndex =>
          -- the tickets drawn before are smaller
          have fresh : ∀ number, next.ticket number = some shared.set.nextIndex →
              number = drawer := by
            intro number drawn
            by_contra different
            rw [others number different] at drawn
            exact Nat.lt_irrefl _ (invariant.drawn number _ drawn)
          by_cases firstOwn : first = drawer
          · subst firstOwn
            have same : shared.set.nextIndex = ticket :=
              Option.some.inj (own.symm.trans firstDrawn)
            subst same
            exact (fresh second secondDrawn).symm
          · by_cases secondOwn : second = drawer
            · subst secondOwn
              have same : shared.set.nextIndex = ticket :=
                Option.some.inj (own.symm.trans secondDrawn)
              subst same
              exact fresh first firstDrawn
            · rw [others first firstOwn] at firstDrawn
              rw [others second secondOwn] at secondDrawn
              exact invariant.distinct first second ticket firstDrawn secondDrawn
  case justified =>
      intro number call found
      cases steps with
      | @call entering entered =>
          rw [List.getElem?_append] at found
          split at found
          · exact (invariant.justified number call found).append [action]
          · obtain rfl := List.mem_singleton.mp (List.mem_of_getElem? found)
            exact Call.justified_entered entered
      | select before selects =>
          exact invariant.justified_set
            (justified_of_selects invariant run below before selects [action]) found
      | probe before =>
          apply invariant.justified_set _ found
          trivial

theorem selectionInvariant_run {final : Shared}
    (run : Shared.machine.run (unused set) actions = some final)
    (below : Shared.machine.Throughout (unused set) actions Shared.BelowLimit) :
    SelectionInvariant set actions final := by
  apply below.run_induction (SelectionInvariant set) (selectionInvariant_unused set) _ run
  intro actions shared action next reached _ belowNow _ invariant taken
  exact invariant.step reached belowNow taken

/-- Selections are sound and complete with respect to health, over the interval
of the call, in every interleaving. -/
theorem soundSelection (set : BackendSet) (actions : List CallAction) (final : Shared)
    (run : Shared.machine.run (unused set) actions = some final)
    (below : Shared.machine.Throughout (unused set) actions Shared.BelowLimit) :
    SoundSelection set actions final := by
  have invariant := selectionInvariant_run run below
  constructor
  · exact invariant.distinct
  · intro number start index addr found
    exact invariant.justified number _ found
  · intro number start found
    exact invariant.justified number _ found
  · intro number index inside stays start found
    have down := invariant.justified number _ found index inside
    apply down.not_throughout _ stays
    rintro shared ⟨active, entry, atIndex, unhealthy⟩ marked
    obtain ⟨same, atSame, healthy⟩ := marked active
    rw [atIndex, Option.some.injEq] at atSame
    subst same
    rw [unhealthy] at healthy
    cases healthy

/-- Each step draws one ticket at most. -/
theorem SharedSteps.nextIndex_le {next : Shared} (steps : SharedSteps shared next) :
    next.set.nextIndex.val ≤ shared.set.nextIndex + 1 := by
  cases steps with
  | call => exact Nat.le_succ _
  | select _ selects =>
      cases selects with
      | draw =>
          rw [Fin.val_add]
          exact Nat.mod_le _ _
      | empty => exact Nat.le_succ _
      | find => exact Nat.le_succ _
      | skip => exact Nat.le_succ _
      | exhaust => exact Nat.le_succ _
  | probe _ _ nextIndex =>
      rw [nextIndex]
      exact Nat.le_succ _

theorem nextIndex_run_le {final : Shared}
    (run : Shared.machine.run (unused set) actions = some final) :
    final.set.nextIndex.val ≤ set.nextIndex + actions.length ∧
      final.set.addresses = set.addresses := by
  apply Machine.run_induction (fun actions (shared : Shared) =>
    shared.set.nextIndex.val ≤ set.nextIndex + actions.length ∧
      shared.set.addresses = set.addresses) ⟨le_rfl, rfl⟩ _ run
  rintro actions shared action next ⟨bound, same⟩ taken
  have steps := sharedSteps_of_step taken
  have oneMore := steps.nextIndex_le
  rw [List.length_append, List.length_singleton, steps.addresses]
  exact ⟨by omega, same⟩

theorem belowLimit_of_few
    (few : set.nextIndex + actions.length + set.entries.val.length < usizeLimit) :
    Shared.machine.Throughout (unused set) actions Shared.BelowLimit := by
  rintro before after middle rfl run
  obtain ⟨bound, same⟩ := nextIndex_run_le run
  have length := congrArg List.length same
  simp only [addresses, List.length_map] at length
  rw [List.length_append] at few
  unfold Shared.BelowLimit
  omega

/-- The first backend is down when it is read and recovers before the second
one goes down and is read. -/
def passing : List CallAction :=
  [.call (.probe false (.v4 localhost 9000) 1 .entered), .advance 0, .advance 0, .advance 0,
    .call (.select .entered), .advance 1, .advance 1,
    .call (.probe true (.v4 localhost 9000) 1 .entered), .advance 2, .advance 2, .advance 2,
    .call (.probe false (.v4 localhost 9001) 1 .entered), .advance 3, .advance 3, .advance 3,
    .advance 1, .advance 1]

/-- No backend counts as healthy for a selection although one always is. -/
theorem soundSelection_passing :
    ∃ final, Shared.machine.run (unused (new pair.backends)) passing = some final ∧
      final.calls[1]? = some (.select (.exhausted 0)) ∧
      final.set.healthyCount = 1 ∧
      SoundSelection (new pair.backends) passing final := by
  obtain ⟨final, run⟩ : ∃ final,
      Shared.machine.run (unused (new pair.backends)) passing = some final :=
    Option.isSome_iff_exists.mp (by decide +kernel)
  have facts : (Shared.machine.run (unused (new pair.backends)) passing).map
      (fun final => (final.calls[1]?, final.set.healthyCount)) =
      some (some (.select (.exhausted 0)), 1) := by
    decide +kernel
  rw [run, Option.map_some, Option.some.injEq, Prod.mk.injEq] at facts
  exact ⟨final, run, facts.1, facts.2,
    soundSelection _ passing final run (belowLimit_of_few (by decide))⟩

end BackendSet

end Mzani
