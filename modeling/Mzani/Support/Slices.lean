import Mathlib.Algebra.GroupWithZero.Nat
import Mathlib.Order.Nat

/-!
# Slices

An amount cut into slices of one length; the last slice is what is left.
-/

namespace Support

/-- The slices of an amount, from the first one on. -/
def slices (length amount : Nat) : List Nat :=
  List.replicate (amount / length) length ++ if amount % length = 0 then [] else [amount % length]

variable {length amount : Nat}

@[simp] theorem slices_zero (length : Nat) : slices length 0 = [] := by
  simp [slices]

/-- The first slice, and those of the rest. -/
theorem slices_of_pos (positive : 0 < length) (left : amount ≠ 0) :
    slices length amount = min amount length :: slices length (amount - min amount length) := by
  rcases Nat.lt_or_ge amount length with short | long
  · rw [Nat.min_eq_left (Nat.le_of_lt short), Nat.sub_self, slices_zero, slices, Nat.div_eq_of_lt short,
      Nat.mod_eq_of_lt short, if_neg left]
    rfl
  · obtain ⟨rest, rfl⟩ := Nat.exists_eq_add_of_le long
    rw [Nat.min_eq_right long, Nat.add_sub_cancel_left, slices, slices,
      Nat.add_div_left rest positive, Nat.add_mod_left, List.replicate_succ, List.cons_append]

theorem sum_slices (length amount : Nat) : (slices length amount).sum = amount := by
  have parts := Nat.div_add_mod amount length
  rw [slices, List.sum_append, List.sum_replicate_nat, Nat.mul_comm]
  split
  case isTrue none =>
      rw [none] at parts
      exact parts
  case isFalse => exact parts

theorem le_of_mem_slices {slice : Nat} (positive : 0 < length)
    (member : slice ∈ slices length amount) : slice ≤ length := by
  rcases List.mem_append.mp member with whole | last
  · exact Nat.le_of_eq (List.eq_of_mem_replicate whole)
  · split at last
    · cases last
    · rw [List.mem_singleton.mp last]
      exact Nat.le_of_lt (Nat.mod_lt amount positive)

end Support
