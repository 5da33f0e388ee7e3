import Mathlib.Data.List.Infix

/-!
# First occurrences of a pattern

A text that a pattern ends for the first time: the pattern is its end and
occurs nowhere before.  Such a text is the only one of its kind among the
prefixes of a longer text.
-/

namespace Support

variable {α : Type}

/-- The pattern ends the text and does not occur before its end. -/
def EndsFirst (pattern text : List α) : Prop :=
  pattern <:+ text ∧ ¬pattern <:+: text.dropLast

theorem isPrefix_dropLast {pre text : List α} (isPrefix : pre <+: text)
    (strict : pre ≠ text) : pre <+: text.dropLast := by
  have short : pre.length < text.length := by
    by_contra long
    exact strict (isPrefix.eq_of_length_le (Nat.le_of_not_lt long))
  rw [List.dropLast_eq_take]
  rw [List.prefix_take_iff]
  exact ⟨isPrefix, by omega⟩

/-- A pattern without the separator occurs on one side of it. -/
theorem isInfix_append_cons {pattern left right : List α} {separator : α}
    (absent : separator ∉ pattern) (occurs : pattern <:+: left ++ separator :: right) :
    pattern <:+: left ∨ pattern <:+: right := by
  have prefixSide : ∀ left : List α, pattern <+: left ++ separator :: right →
      pattern <+: left := by
    intro left isPrefix
    have whole : left ++ separator :: right = (left ++ [separator]) ++ right := by simp
    rw [whole] at isPrefix
    rcases List.prefix_or_prefix_of_prefix isPrefix (List.prefix_append _ right) with
      short | long
    · rcases List.prefix_concat_iff.mp short with same | inside
      · exact (absent (by simp [same])).elim
      · exact inside
    · exact (absent (long.subset (by simp))).elim
  induction left with
  | nil =>
      rcases List.infix_cons_iff.mp occurs with starts | later
      · exact Or.inl (prefixSide [] starts).isInfix
      · exact Or.inr later
  | cons head left induction =>
      rcases List.infix_cons_iff.mp occurs with starts | later
      · exact Or.inl (prefixSide (head :: left) starts).isInfix
      · rcases induction later with inLeft | inRight
        · exact Or.inl (inLeft.trans (List.suffix_cons head left).isInfix)
        · exact Or.inr inRight

namespace EndsFirst

variable {pattern text other whole : List α}

/-- A strict prefix of the text does not contain the pattern. -/
theorem free_of_strict_prefix (ends : EndsFirst pattern text)
    {pre : List α} (isPrefix : pre <+: text) (strict : pre ≠ text) :
    ¬pattern <:+: pre := fun occurs =>
  ends.2 (occurs.trans (isPrefix_dropLast isPrefix strict).isInfix)

/-- A longer text has only one prefix that the pattern ends first. -/
theorem unique (ends : EndsFirst pattern text)
    (otherEnds : EndsFirst pattern other) (isPrefix : text <+: whole)
    (otherPrefix : other <+: whole) : text = other := by
  by_contra different
  rcases List.prefix_or_prefix_of_prefix isPrefix otherPrefix with
    inOther | inText
  · exact otherEnds.free_of_strict_prefix inOther different ends.1.isInfix
  · exact ends.free_of_strict_prefix inText (Ne.symm different)
      otherEnds.1.isInfix

theorem self (nonempty : pattern ≠ []) : EndsFirst pattern pattern := by
  refine ⟨List.suffix_rfl, fun occurs => ?_⟩
  have short := occurs.length_le
  have positive := List.length_pos_iff.mpr nonempty
  rw [List.length_dropLast] at short
  omega

/-- It is the only prefix of itself that ends with the pattern. -/
theorem iff_shortest (nonempty : pattern ≠ []) :
    EndsFirst pattern text ↔
      pattern <:+ text ∧ ∀ pre, pre <+: text → pattern <:+ pre → pre = text := by
  constructor
  · intro ends
    refine ⟨ends.1, fun pre isPrefix ended => ?_⟩
    by_contra strict
    exact ends.free_of_strict_prefix isPrefix strict ended.isInfix
  · rintro ⟨ended, shortest⟩
    refine ⟨ended, fun occurs => ?_⟩
    obtain ⟨before, after, split⟩ := occurs
    have inside : before ++ pattern <+: text.dropLast := ⟨after, split⟩
    have whole : before ++ pattern = text := by
      apply shortest
      · exact inside.trans (List.dropLast_prefix text)
      · exact List.suffix_append before pattern
    have short := inside.length_le
    have positive := List.length_pos_iff.mpr nonempty
    rw [List.length_dropLast, ← whole, List.length_append] at short
    omega

/-- A symbol in front that does not start an occurrence. -/
theorem cons (ends : EndsFirst pattern text) (textNonempty : text ≠ [])
    {head : α} (noStart : ¬pattern <+: head :: text.dropLast) :
    EndsFirst pattern (head :: text) := by
  refine ⟨ends.1.trans (List.suffix_cons head text), fun occurs => ?_⟩
  rw [List.dropLast_cons_of_ne_nil textNonempty] at occurs
  rcases List.infix_cons_iff.mp occurs with starts | later
  · exact noStart starts
  · exact ends.2 later

end EndsFirst

end Support
