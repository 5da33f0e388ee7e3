import Mathlib.Algebra.GroupWithZero.Nat
import Mathlib.Data.List.Induction

/-!
# State machines

Machines given by a partial step function, their runs, and the rules for
invariants over runs and for threads that finish under every schedule.
-/

namespace Support

universe u v

/-- A state machine.  A label that is not enabled has no next state. -/
structure Machine (σ : Type u) (ε : Type v) where
  step : σ → ε → Option σ

namespace Machine

variable {σ : Type u} {ε : Type v} (machine : Machine σ ε)

/-- The state after the labels, if all of them are enabled in turn. -/
def run : σ → List ε → Option σ
  | state, [] => some state
  | state, label :: labels =>
      match machine.step state label with
      | some next => run next labels
      | none => none

variable {machine} {start state next final : σ} {label : ε} {labels more : List ε}

@[simp] theorem run_nil : machine.run start [] = some start := rfl

theorem run_cons_eq_some_iff :
    machine.run start (label :: labels) = some final ↔
      ∃ next, machine.step start label = some next ∧
        machine.run next labels = some final := by
  rw [run]
  cases machine.step start label with
  | none => simp
  | some next => simp

theorem run_append_eq_some_iff :
    machine.run start (labels ++ more) = some final ↔
      ∃ middle, machine.run start labels = some middle ∧
        machine.run middle more = some final := by
  induction labels generalizing start with
  | nil => simp
  | cons label labels ih =>
      simp only [List.cons_append, run_cons_eq_some_iff, ih]
      constructor
      · rintro ⟨next, taken, middle, first, second⟩
        exact ⟨middle, ⟨next, taken, first⟩, second⟩
      · rintro ⟨middle, ⟨next, taken, first⟩, second⟩
        exact ⟨next, taken, middle, first, second⟩

theorem run_concat_eq_some_iff :
    machine.run start (labels ++ [label]) = some final ↔
      ∃ middle, machine.run start labels = some middle ∧
        machine.step middle label = some final := by
  simp only [run_append_eq_some_iff, run_cons_eq_some_iff, run_nil, Option.some.injEq,
    exists_eq_right]

/-- What holds of the start, and after a step if it held before, holds of
every run; the labels taken so far may be part of it. -/
theorem run_induction (holds : List ε → σ → Prop) (initial : holds [] start)
    (preserved : ∀ labels state label next, holds labels state →
      machine.step state label = some next → holds (labels ++ [label]) next)
    (run : machine.run start labels = some final) : holds labels final := by
  induction labels using List.reverseRecOn generalizing final with
  | nil =>
      rw [Machine.run, Option.some.injEq] at run
      rwa [← run]
  | append_singleton labels label ih =>
      obtain ⟨middle, before, taken⟩ := run_concat_eq_some_iff.mp run
      exact preserved labels middle label final (ih before) taken

/-- A step keeps the property. -/
def Preserves (machine : Machine σ ε) (holds : σ → Prop) : Prop :=
  ∀ ⦃state label next⦄, holds state → machine.step state label = some next → holds next

theorem Preserves.run {holds : σ → Prop} (preserves : machine.Preserves holds)
    (initial : holds start) (run : machine.run start labels = some final) :
    holds final :=
  run_induction (fun _ state => holds state) initial
    (fun _ _ _ _ held taken => preserves held taken) run

/-! ## Moments of a run -/

section

variable (machine) (start) (labels)

/-- At some moment of the run the property holds. -/
def Sometime (holds : σ → Prop) : Prop :=
  ∃ before after middle, labels = before ++ after ∧
    machine.run start before = some middle ∧ holds middle

/-- At every moment of the run the property holds. -/
def Throughout (holds : σ → Prop) : Prop :=
  ∀ ⦃before after middle⦄, labels = before ++ after →
    machine.run start before = some middle → holds middle

end

theorem Sometime.now {holds : σ → Prop} (run : machine.run start labels = some final)
    (held : holds final) : machine.Sometime start labels holds :=
  ⟨labels, [], final, by simp, run, held⟩

/-- What was the case once stays a fact about the run. -/
theorem Sometime.append {holds : σ → Prop} (once : machine.Sometime start labels holds)
    (more : List ε) : machine.Sometime start (labels ++ more) holds := by
  obtain ⟨before, after, middle, rfl, run, held⟩ := once
  exact ⟨before, after ++ more, middle, by simp, run, held⟩

theorem Sometime.not_throughout {holds never : σ → Prop}
    (once : machine.Sometime start labels holds)
    (excludes : ∀ state, holds state → ¬never state) :
    ¬machine.Throughout start labels never := by
  obtain ⟨before, after, middle, split, run, held⟩ := once
  intro always
  exact excludes middle held (always split run)

theorem Throughout.of_append {holds : σ → Prop}
    (always : machine.Throughout start (labels ++ more) holds) :
    machine.Throughout start labels holds := by
  intro first after state split reached
  have whole : labels ++ more = first ++ (after ++ more) := by
    rw [split, List.append_assoc]
  exact always whole reached

/-- Induction over a run with what holds throughout it; the run so far is at
hand. -/
theorem Throughout.run_induction {during : σ → Prop} (holds : List ε → σ → Prop)
    (always : machine.Throughout start labels during) (initial : holds [] start)
    (preserved : ∀ labels state label next, machine.run start labels = some state →
      machine.run start (labels ++ [label]) = some next →
      during state → during next → holds labels state →
      machine.step state label = some next → holds (labels ++ [label]) next)
    (run : machine.run start labels = some final) : holds labels final := by
  induction labels using List.reverseRecOn generalizing final with
  | nil =>
      rw [Machine.run, Option.some.injEq] at run
      rwa [← run]
  | append_singleton labels label ih =>
      obtain ⟨middle, before, taken⟩ := run_concat_eq_some_iff.mp run
      have duringMiddle : during middle := always rfl before
      have duringFinal : during final := always (List.append_nil _).symm run
      apply preserved labels middle label final before run duringMiddle duringFinal _ taken
      exact ih always.of_append before

/-! ## Threads that finish -/

/-- As long as `during` holds, the thread with the labels `own` can take a step
unless it has finished, and each one brings it closer to its end; no other
step takes it further away. -/
structure Drains (machine : Machine σ ε) (own : ε → Prop) (during finished : σ → Prop)
    (left : σ → Nat) : Prop where
  enabled : ∀ ⦃state⦄, during state → ¬finished state →
    ∃ label next, own label ∧ machine.step state label = some next
  decreases : ∀ ⦃state label next⦄, during state → own label →
    machine.step state label = some next → left next < left state
  others : ∀ ⦃state label next⦄, during state →
    machine.step state label = some next → left next ≤ left state

/-- A run all of whose steps are taken in states with the property. -/
inductive RunWhile (machine : Machine σ ε) (during : σ → Prop) : σ → List ε → σ → Prop where
  | nil (state : σ) : RunWhile machine during state [] state
  | cons {state next final : σ} {label : ε} {labels : List ε} :
      during state → machine.step state label = some next →
      RunWhile machine during next labels final →
      RunWhile machine during state (label :: labels) final

/-- What the steps of the run preserve holds along it. -/
theorem RunWhile.strengthen {during : σ → Prop} (holds : σ → Prop)
    (run : machine.RunWhile during start labels final) (initial : holds start)
    (preserved : ∀ ⦃state label next⦄, during state → holds state →
      machine.step state label = some next → holds next) :
    machine.RunWhile (fun state => during state ∧ holds state) start labels final := by
  induction run with
  | nil state => exact .nil state
  | cons during taken _ ih =>
      exact .cons ⟨during, initial⟩ taken (ih (preserved during initial taken))

/-- Under every schedule the thread takes only so many steps. -/
theorem Drains.own_steps_le {own : ε → Prop} [DecidablePred own] {during finished : σ → Prop}
    {left : σ → Nat} (drains : machine.Drains own during finished left)
    (run : machine.RunWhile during start labels final) :
    labels.countP (fun label => own label) + left final ≤ left start := by
  induction run with
  | nil state => simp
  | @cons state next final label labels holds taken rest ih =>
      rw [List.countP_cons]
      by_cases mine : own label
      · have closer := drains.decreases holds mine taken
        simp only [mine, decide_true, if_true]
        omega
      · have closer := drains.others holds taken
        simp only [mine, decide_false, Bool.false_eq_true, if_false]
        omega

end Machine

/-! ## Sums over threads -/

section

variable {α : Type u}

/-- What the threads amount to, each with its weight. -/
def tally (weight : α → Nat) (threads : List α) : Nat :=
  (threads.map weight).sum

/-- One thread takes a step. -/
theorem tally_set {weight : α → Nat} {threads : List α} {position : Nat} {old : α}
    (new : α) (found : threads[position]? = some old) :
    tally weight (threads.set position new) + weight old =
      tally weight threads + weight new := by
  induction threads generalizing position with
  | nil => cases found
  | cons head tail ih =>
      cases position with
      | zero =>
          rw [List.getElem?_cons_zero, Option.some.injEq] at found
          subst found
          simp only [tally, List.set_cons_zero, List.map_cons, List.sum_cons]
          omega
      | succ position =>
          rw [List.getElem?_cons_succ] at found
          have rest := ih found
          simp only [tally, List.set_cons_succ, List.map_cons, List.sum_cons] at rest ⊢
          omega

/-- A thread that steps between two places without the property leaves it to
the others. -/
theorem exists_mem_set_iff {holds : α → Prop} {threads : List α} {position : Nat}
    {old new : α} (found : threads[position]? = some old) (before : ¬holds old)
    (after : ¬holds new) :
    (∃ thread ∈ threads.set position new, holds thread) ↔ ∃ thread ∈ threads, holds thread := by
  constructor
  · rintro ⟨thread, member, held⟩
    rcases List.mem_or_eq_of_mem_set member with earlier | rfl
    · exact ⟨thread, earlier, held⟩
    · exact absurd held after
  · rintro ⟨thread, member, held⟩
    obtain ⟨index, atIndex⟩ := List.mem_iff_getElem?.mp member
    have other : position ≠ index := by
      rintro rfl
      rw [found, Option.some.injEq] at atIndex
      exact before (atIndex ▸ held)
    refine ⟨thread, List.mem_iff_getElem?.mpr ⟨index, ?_⟩, held⟩
    rw [List.getElem?_set_ne other, atIndex]

/-- The threads around the one that steps. -/
theorem set_eq_around {threads : List α} {position : Nat} {old : α} (new : α)
    (found : threads[position]? = some old) :
    threads = threads.take position ++ old :: threads.drop (position + 1) ∧
      threads.set position new =
        threads.take position ++ new :: threads.drop (position + 1) := by
  obtain ⟨inside, atPosition⟩ := List.getElem?_eq_some_iff.mp found
  constructor
  · rw [← atPosition, List.getElem_cons_drop, List.take_append_drop]
  · exact List.set_eq_take_append_cons_drop.trans (if_pos inside)

/-- A thread that steps to a place with a value adds it to the values of the
others. -/
theorem filterMap_set_perm {β : Type v} {value? : α → Option β} {threads : List α}
    {position : Nat} {old new : α} {value : β} (found : threads[position]? = some old)
    (before : value? old = none) (after : value? new = some value) :
    ((threads.set position new).filterMap value?).Perm (threads.filterMap value? ++ [value]) := by
  obtain ⟨split, stepped⟩ := set_eq_around new found
  rw [stepped]
  conv_rhs => rw [split]
  simp only [List.filterMap_append, List.filterMap_cons, before, after]
  exact List.perm_middle.trans (List.perm_append_singleton _ _).symm

/-- A thread that steps between two places with the same value. -/
theorem filterMap_set_same {β : Type v} {value? : α → Option β} {threads : List α}
    {position : Nat} {old new : α} (found : threads[position]? = some old)
    (same : value? new = value? old) :
    (threads.set position new).filterMap value? = threads.filterMap value? := by
  obtain ⟨split, stepped⟩ := set_eq_around new found
  rw [stepped]
  conv_rhs => rw [split]
  simp only [List.filterMap_append, List.filterMap_cons, same]

theorem tally_concat (weight : α → Nat) (threads : List α) (last : α) :
    tally weight (threads ++ [last]) = tally weight threads + weight last := by
  simp [tally]

theorem tally_eq_zero {weight : α → Nat} {threads : List α}
    (none : ∀ thread ∈ threads, weight thread = 0) : tally weight threads = 0 := by
  induction threads with
  | nil => rfl
  | cons thread threads ih =>
      have rest := ih fun other member => none other (List.mem_cons_of_mem _ member)
      simp only [tally, List.map_cons, List.sum_cons] at rest ⊢
      rw [rest, none thread List.mem_cons_self]

end

end Support
