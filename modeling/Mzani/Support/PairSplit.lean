import Mathlib.Data.List.Infix

/-!
# Splitting at a two-symbol separator

A separator made of two different symbols cannot overlap itself, so cutting a
sequence at its occurrences is compatible with concatenation around a
separator.  This is the algebra behind line-oriented formats whose lines end
with a carriage return and a line feed.
-/

namespace Support

variable {α : Type} [DecidableEq α]

/-- The pieces between the occurrences of `first, second`, left to right. -/
def splitPair (first second : α) : List α → List (List α)
  | [] => [[]]
  | [only] => [[only]]
  | left :: right :: rest =>
      if left = first ∧ right = second then
        [] :: splitPair first second rest
      else
        (splitPair first second (right :: rest)).modifyHead (left :: ·)

/-- The pieces put back together around the separator. -/
def joinPair (first second : α) (pieces : List (List α)) : List α :=
  [first, second].intercalate pieces

@[simp] theorem splitPair_nil (first second : α) :
    splitPair first second [] = [[]] := by
  simp [splitPair]

theorem splitPair_separator (first second : α) (rest : List α) :
    splitPair first second (first :: second :: rest) =
      [] :: splitPair first second rest := by
  simp [splitPair]

theorem splitPair_ne_nil (first second : α) (input : List α) :
    splitPair first second input ≠ [] := by
  fun_induction splitPair first second input with
  | case1 => simp
  | case2 => simp
  | case3 left right rest separator induction => simp
  | case4 left right rest other induction => simpa using induction

theorem splitPair_cons {first second : α} {head : α} {tail : List α}
    (other : ¬[first, second] <+: head :: tail) :
    splitPair first second (head :: tail) =
      (splitPair first second tail).modifyHead (head :: ·) := by
  cases tail with
  | nil => simp [splitPair]
  | cons next tail =>
      have different : ¬(head = first ∧ next = second) := by
        rintro ⟨rfl, rfl⟩
        exact other ⟨tail, rfl⟩
      simp [splitPair, different]

/-- Splitting is compatible with concatenation around a separator, because
the two symbols differ. -/
theorem splitPair_append {first second : α} (different : first ≠ second)
    (left right : List α) :
    splitPair first second (left ++ first :: second :: right) =
      splitPair first second left ++ splitPair first second right := by
  fun_induction splitPair first second left with
  | case1 => simp [splitPair_separator]
  | case2 only =>
      have other : ¬[first, second] <+: only :: first :: second :: right := by
        simp [Ne.symm different]
      simp [splitPair_cons other, splitPair_separator]
  | case3 head next rest separator induction =>
      obtain ⟨rfl, rfl⟩ := separator
      simp [splitPair_separator, induction]
  | case4 head next rest other induction =>
      have notPrefix : ¬[first, second] <+:
          head :: next :: (rest ++ first :: second :: right) := by
        simpa [eq_comm] using other
      rw [List.cons_append] at induction
      simp only [List.cons_append, splitPair_cons notPrefix, induction]
      cases pieces : splitPair first second (next :: rest) with
      | nil => exact (splitPair_ne_nil _ _ _ pieces).elim
      | cons piece pieces => simp

/-- A sequence without the separator is its own only piece. -/
theorem splitPair_of_free {first second : α} {input : List α}
    (free : ¬[first, second] <:+: input) :
    splitPair first second input = [input] := by
  induction input with
  | nil => simp
  | cons head tail induction =>
      have notPrefix : ¬[first, second] <+: head :: tail :=
        fun isPrefix => free isPrefix.isInfix
      have tailFree : ¬[first, second] <:+: tail := fun inTail =>
        free (inTail.trans (List.suffix_cons head tail).isInfix)
      simp [splitPair_cons notPrefix, induction tailFree]

/-- The pieces put back around the separator are the input. -/
theorem joinPair_splitPair (first second : α) (input : List α) :
    joinPair first second (splitPair first second input) = input := by
  fun_induction splitPair first second input with
  | case1 => simp [joinPair, List.intercalate]
  | case2 => simp [joinPair, List.intercalate]
  | case3 left right rest separator induction =>
      obtain ⟨rfl, rfl⟩ := separator
      cases pieces : splitPair left right rest with
      | nil => exact (splitPair_ne_nil _ _ _ pieces).elim
      | cons piece pieces' =>
          rw [pieces] at induction
          simpa [joinPair, List.intercalate] using induction
  | case4 left right rest other induction =>
      cases pieces : splitPair first second (right :: rest) with
      | nil => exact (splitPair_ne_nil _ _ _ pieces).elim
      | cons piece pieces' =>
          rw [pieces] at induction
          cases pieces' with
          | nil => simpa [joinPair, List.intercalate] using induction
          | cons next others => simpa [joinPair, List.intercalate] using induction

omit [DecidableEq α] in
theorem joinPair_cons_cons (first second : α) (piece next : List α)
    (pieces : List (List α)) :
    joinPair first second (piece :: next :: pieces) =
      piece ++ first :: second :: joinPair first second (next :: pieces) := by
  simp [joinPair, List.intercalate]

omit [DecidableEq α] in
private theorem isPrefix_joinPair_cons (first second : α) (piece : List α)
    (pieces : List (List α)) :
    piece <+: joinPair first second (piece :: pieces) := by
  cases pieces with
  | nil => simp [joinPair, List.intercalate]
  | cons next pieces =>
      rw [joinPair_cons_cons]
      exact List.prefix_append _ _

/-- No piece contains the separator. -/
theorem free_of_mem_splitPair {first second : α} {input : List α} :
    ∀ piece ∈ splitPair first second input, ¬[first, second] <:+: piece := by
  fun_induction splitPair first second input with
  | case1 => simp
  | case2 only =>
      intro piece member occurs
      have short := occurs.length_le
      simp_all
  | case3 left right rest separator induction =>
      intro piece member
      rcases List.mem_cons.mp member with rfl | later
      · simp
      · exact induction piece later
  | case4 left right rest other induction =>
      have restored := joinPair_splitPair first second (right :: rest)
      cases pieces : splitPair first second (right :: rest) with
      | nil => exact (splitPair_ne_nil _ _ _ pieces).elim
      | cons head others =>
          rw [pieces] at induction restored
          intro piece member
          rcases List.mem_cons.mp member with rfl | later
          · -- the grown piece starts with `left` and goes on with `right`
            intro occurs
            rcases List.infix_cons_iff.mp occurs with isPrefix | inside
            · have headPrefix : head <+: right :: rest := by
                rw [← restored]
                exact isPrefix_joinPair_cons _ _ _ _
              cases head with
              | nil => simp at isPrefix
              | cons symbol head =>
                  simp only [List.cons_prefix_cons] at isPrefix headPrefix
                  exact other ⟨isPrefix.1.symm,
                    headPrefix.1.symm.trans isPrefix.2.1.symm⟩
            · exact induction head (by simp) inside
          · exact induction piece (List.mem_cons_of_mem _ later)

/-- Splitting the concatenation of separator-free pieces gives them back. -/
theorem splitPair_joinPair {first second : α} (different : first ≠ second)
    {pieces : List (List α)} (nonempty : pieces ≠ [])
    (free : ∀ piece ∈ pieces, ¬[first, second] <:+: piece) :
    splitPair first second (joinPair first second pieces) = pieces := by
  induction pieces with
  | nil => exact (nonempty rfl).elim
  | cons piece pieces induction =>
      have pieceFree := free piece (by simp)
      cases pieces with
      | nil =>
          simpa [joinPair, List.intercalate] using splitPair_of_free pieceFree
      | cons next pieces =>
          have restSplit := induction (by simp) (fun item member =>
            free item (List.mem_cons_of_mem _ member))
          rw [joinPair_cons_cons, splitPair_append different,
            splitPair_of_free pieceFree, restSplit]
          rfl

end Support
