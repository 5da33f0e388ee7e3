import Mzani.Support.Machine

/-!
# Refinement of machines

A machine refines another one if its states can be read as states of the other
one so that each of its steps is a run of the other one, of any length.  Then
its runs are runs of the other one, and what every run of the other one keeps
holds of what is read.
-/

namespace Support

universe u v w x

namespace Machine

variable {σ : Type u} {ε : Type v} {τ : Type w} {δ : Type x}
  {concrete : Machine σ ε} {coarse : Machine τ δ} {holds : σ → Prop} {read : σ → τ}
  {start state next final : σ} {labels : List ε}

/-- In the states with the property a step of the first machine, as it is read,
is a run of the second one. -/
structure Refines (concrete : Machine σ ε) (coarse : Machine τ δ) (holds : σ → Prop)
    (read : σ → τ) : Prop where
  preserves : concrete.Preserves holds
  simulates : ∀ ⦃state label next⦄, holds state → concrete.step state label = some next →
    ∃ labels, coarse.run (read state) labels = some (read next)

/-- A run of the first machine is a run of the second one. -/
theorem Refines.run (refines : concrete.Refines coarse holds read) (initial : holds start)
    (run : concrete.run start labels = some final) :
    holds final ∧ ∃ labels, coarse.run (read start) labels = some (read final) := by
  apply run_induction (fun _ reached => holds reached ∧
    ∃ labels, coarse.run (read start) labels = some (read reached)) ⟨initial, [], rfl⟩ _ run
  rintro _ state label next ⟨held, before, ran⟩ taken
  obtain ⟨after, ranOn⟩ := refines.simulates held taken
  refine ⟨refines.preserves held taken, before ++ after, ?_⟩
  exact run_append_eq_some_iff.mpr ⟨read state, ran, ranOn⟩

/-- An invariant of the second machine, with some more that the first one keeps,
is enough to read its steps. -/
theorem Refines.of_invariant (invariant : τ → Prop) {around : σ → Prop}
    (keeps : coarse.Preserves invariant)
    (simulates : ∀ ⦃state label next⦄, around state → invariant (read state) →
      concrete.step state label = some next →
      around next ∧ ∃ labels, coarse.run (read state) labels = some (read next)) :
    concrete.Refines coarse (fun state => around state ∧ invariant (read state)) read where
  preserves := by
    rintro state label next ⟨held, invariantHeld⟩ taken
    obtain ⟨kept, labels, ran⟩ := simulates held invariantHeld taken
    exact ⟨kept, keeps.run invariantHeld ran⟩
  simulates := by
    rintro state label next ⟨held, invariantHeld⟩ taken
    exact (simulates held invariantHeld taken).2

end Machine

end Support
