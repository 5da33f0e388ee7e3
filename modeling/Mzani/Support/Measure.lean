import Mathlib.Order.WellFounded
import Mzani.Support.Machine

/-!
# Measures of machines

A machine that can bring a measure down in every state that is not a last one
can be run to a last one, and steps that bring a number down are taken only so
many times.
-/

namespace Support

universe u v w

namespace Machine

variable {σ : Type u} {ε : Type v} {machine : Machine σ ε} {during finished : σ → Prop}
  {start final : σ} {labels : List ε}

/-- Where the measure can be brought down until the end, the end can be
reached. -/
theorem exists_run_of_measure {β : Type w} [LT β] [WellFoundedLT β] (measure : σ → β)
    (closer : ∀ state, during state → ¬finished state →
      ∃ label next, machine.step state label = some next ∧ during next ∧
        measure next < measure state)
    (initial : during start) :
    ∃ labels final, machine.run start labels = some final ∧ during final ∧ finished final := by
  induction bound : measure start using WellFoundedLT.induction generalizing start with
  | ind value ih =>
      by_cases done : finished start
      · exact ⟨[], start, rfl, initial, done⟩
      · obtain ⟨label, next, taken, held, less⟩ := closer start initial done
        obtain ⟨labels, final, ran, atEnd⟩ := ih (measure next) (bound ▸ less) held rfl
        exact ⟨label :: labels, final, run_cons_eq_some_iff.mpr ⟨next, taken, ran⟩, atEnd⟩

/-- Some steps bring a number down, and no step brings it up. -/
structure Lowers (machine : Machine σ ε) (own : ε → Prop) (during : σ → Prop)
    (left : σ → Nat) : Prop where
  preserves : machine.Preserves during
  decreases : ∀ ⦃state label next⦄, during state → own label →
    machine.step state label = some next → left next < left state
  others : ∀ ⦃state label next⦄, during state →
    machine.step state label = some next → left next ≤ left state

/-- In every run such steps are taken at most as often as the number says. -/
theorem Lowers.steps_le {own : ε → Prop} [DecidablePred own] {left : σ → Nat}
    (lowers : machine.Lowers own during left) (initial : during start)
    (run : machine.run start labels = some final) :
    labels.countP (fun label => own label) + left final ≤ left start := by
  induction labels generalizing start with
  | nil =>
      cases run
      simp
  | cons label labels ih =>
      obtain ⟨next, taken, rest⟩ := run_cons_eq_some_iff.mp run
      have counted := ih (lowers.preserves initial taken) rest
      rw [List.countP_cons]
      by_cases mine : own label
      · have less := lowers.decreases initial mine taken
        simp only [mine, decide_true, if_true]
        omega
      · have notMore := lowers.others initial taken
        simp only [mine, decide_false, Bool.false_eq_true, if_false]
        omega

end Machine

end Support
