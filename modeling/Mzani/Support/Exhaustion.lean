import Mathlib.Algebra.BigOperators.Group.Finset.Basic
import Mathlib.Data.Finset.Range
import Mzani.Support.Transducer

/-!
# Machines that come to rest

Steps of one kind that each use up some of a supply, to which another step adds
no more than so much.  So many steps of the kind can be taken only as were paid
for, and where they can be taken they lead to a state in which none is left.
-/

namespace Support

universe u v w

namespace Transducer

variable {σ : Type u} {ε : Type v} {ω : Type w} {machine : Transducer σ ε ω}
  {kind : ε → Bool} {price : Nat} {supplied : σ → Nat → Prop}

/-- A step of the kind leaves less of the supply, and another one adds its price at
most. -/
def Spends (machine : Transducer σ ε ω) (kind : ε → Bool) (price : Nat)
    (supplied : σ → Nat → Prop) : Prop :=
  ∀ ⦃state supply label next output⦄, supplied state supply →
    machine.step state label = some (next, output) →
    ∃ rest, supplied next rest ∧ if kind label = true then rest < supply else rest ≤ supply + price

/-- No step of the kind is left. -/
def AtRest (machine : Transducer σ ε ω) (kind : ε → Bool) (state : σ) : Prop :=
  ∀ label, kind label = true → machine.step state label = none

variable {start final : σ} {labels : List ε} {outputs : List ω} {supply : Nat}

theorem Spends.run (spends : machine.Spends kind price supplied) (initial : supplied start supply)
    (ran : machine.run start labels = some (final, outputs)) : ∃ rest, supplied final rest := by
  apply Machine.run_induction (fun _ reached => ∃ rest, supplied reached rest) ⟨supply, initial⟩ _
    (run_toMachine ran)
  rintro _ state label next ⟨held, left⟩ taken
  obtain ⟨⟨after, output⟩, stepped, rfl⟩ := Option.map_eq_some_iff.mp taken
  obtain ⟨rest, leftThen, _⟩ := spends left stepped
  exact ⟨rest, leftThen⟩

theorem Spends.countP_le (spends : machine.Spends kind price supplied)
    (initial : supplied start supply) (ran : machine.run start labels = some (final, outputs)) :
    labels.countP kind ≤ supply + price * labels.countP (fun label => !kind label) := by
  induction labels generalizing start supply outputs with
  | nil => exact Nat.zero_le _
  | cons label labels ih =>
      obtain ⟨next, output, others, taken, went, rfl⟩ := run_cons_eq_some_iff.mp ran
      obtain ⟨rest, left, spent⟩ := spends initial taken
      have later := ih left went
      rw [List.countP_cons, List.countP_cons]
      cases ofKind : kind label with
      | true =>
          rw [if_pos ofKind] at spent
          simp only [Bool.not_true, Bool.false_eq_true, if_true, if_false, Nat.add_zero]
          omega
      | false =>
          rw [ofKind, if_neg Bool.false_ne_true] at spent
          simp only [Bool.not_false, Bool.false_eq_true, if_true, if_false, Nat.mul_add]
          omega

theorem Spends.exists_rest (spends : machine.Spends kind price supplied)
    (initial : supplied start supply) :
    ∃ labels final outputs, (∀ label ∈ labels, kind label = true) ∧
      machine.run start labels = some (final, outputs) ∧ machine.AtRest kind final := by
  induction supply using Nat.strongRecOn generalizing start with
  | ind supply ih =>
      by_cases rest : machine.AtRest kind start
      · exact ⟨[], start, [], List.forall_mem_nil _, run_nil, rest⟩
      · obtain ⟨label, ofKind, enabled⟩ :
            ∃ label, kind label = true ∧ machine.step start label ≠ none := by
          simpa [AtRest] using rest
        obtain ⟨⟨next, output⟩, taken⟩ := Option.ne_none_iff_exists'.mp enabled
        obtain ⟨less, left, fewer⟩ := spends initial taken
        rw [if_pos ofKind] at fewer
        obtain ⟨labels, final, outputs, others, went, atRest⟩ := ih less fewer left
        exact ⟨label :: labels, final, output :: outputs,
          List.forall_mem_cons.mpr ⟨ofKind, others⟩, run_cons taken went, atRest⟩

end Transducer

/-- A sum in which one term changes. -/
theorem sum_range_change {before after : Nat → Nat} {count place : Nat} (inside : place < count)
    (same : ∀ other, other ≠ place → after other = before other) :
    (Finset.range count).sum after + before place =
      (Finset.range count).sum before + after place := by
  have member : place ∈ Finset.range count := Finset.mem_range.mpr inside
  have others : ((Finset.range count).erase place).sum after =
      ((Finset.range count).erase place).sum before := by
    apply Finset.sum_congr rfl
    intro other listed
    exact same other (Finset.ne_of_mem_erase listed)
  have withAfter : after place + ((Finset.range count).erase place).sum after =
      (Finset.range count).sum after := Finset.add_sum_erase _ after member
  have withBefore : before place + ((Finset.range count).erase place).sum before =
      (Finset.range count).sum before := Finset.add_sum_erase _ before member
  rw [others] at withAfter
  omega

end Support
