import Mzani.Support.Str

/-!
# Words

What `split_whitespace` yields: the maximal stretches without white space, one
after the other.
-/

namespace Support

variable {text word : Text} {char : Char}

theorem splitWhitespace_blank (blank : isWhitespace char = true) :
    splitWhitespace (char :: text) = splitWhitespace text := by
  simp [splitWhitespace, List.splitOnP_cons_eq_if_modifyHead, blank]

private theorem splitOnP_append_of_visible (visible : ∀ char ∈ word, isWhitespace char = false)
    (text : Text) :
    (word ++ text).splitOnP isWhitespace =
      (text.splitOnP isWhitespace).modifyHead (word ++ ·) := by
  induction word with
  | nil =>
      rw [List.nil_append]
      cases text.splitOnP isWhitespace <;> rfl
  | cons char word ih =>
      have here := visible char List.mem_cons_self
      have rest := ih fun other member => visible other (List.mem_cons_of_mem char member)
      rw [List.cons_append, List.splitOnP_cons_eq_if_modifyHead, here,
        if_neg Bool.false_ne_true, rest]
      cases text.splitOnP isWhitespace <;> rfl

/-- A word at the beginning. -/
theorem splitWhitespace_word (nonempty : word ≠ [])
    (visible : ∀ char ∈ word, isWhitespace char = false)
    (ended : ∀ char, text.head? = some char → isWhitespace char = true) :
    splitWhitespace (word ++ text) = word :: splitWhitespace text := by
  rw [splitWhitespace, splitOnP_append_of_visible visible]
  cases text with
  | nil => simp [splitWhitespace, nonempty]
  | cons char text =>
      have blank := ended char rfl
      rw [splitWhitespace_blank blank]
      simp [splitWhitespace, List.splitOnP_cons_eq_if_modifyHead, blank, nonempty]

/-- The first word, and those after it. -/
theorem splitWhitespace_eq (text : Text) :
    splitWhitespace text =
      let visible := text.dropWhile isWhitespace
      if visible = [] then []
      else
        visible.takeWhile (!isWhitespace ·) ::
          splitWhitespace (visible.dropWhile (!isWhitespace ·)) := by
  induction text with
  | nil => rfl
  | cons char text ih =>
      by_cases blank : isWhitespace char = true
      · rw [splitWhitespace_blank blank, ih, List.dropWhile_cons_of_pos blank]
      · rw [Bool.not_eq_true] at blank
        have fixed : (char :: text).dropWhile isWhitespace = char :: text :=
          List.dropWhile_cons_of_neg (by simp [blank])
        have split := List.takeWhile_append_dropWhile (p := (!isWhitespace ·)) (l := char :: text)
        have nonempty : (char :: text).takeWhile (!isWhitespace ·) ≠ [] := by simp [blank]
        have visible : ∀ other ∈ (char :: text).takeWhile (!isWhitespace ·),
            isWhitespace other = false := by
          intro other member
          simpa using List.mem_takeWhile_imp member
        have ended : ∀ other, ((char :: text).dropWhile (!isWhitespace ·)).head? = some other →
            isWhitespace other = true := by
          intro other first
          have stopped := List.head?_dropWhile_not (!isWhitespace ·) (char :: text)
          rw [first] at stopped
          simpa using stopped
        rw [fixed]
        dsimp only
        rw [if_neg (List.cons_ne_nil _ _)]
        conv_lhs => rw [← split]
        exact splitWhitespace_word nonempty visible ended

/-- Words have no white space. -/
theorem visible_of_mem_splitWhitespace (member : word ∈ splitWhitespace text) :
    ∀ char ∈ word, isWhitespace char = false := by
  have pieces : ∀ text : Text, ∀ piece ∈ text.splitOnP isWhitespace,
      ∀ char ∈ piece, isWhitespace char = false := by
    intro text
    induction text with
    | nil => simp
    | cons first text ih =>
        rw [List.splitOnP_cons_eq_if_modifyHead]
        split
        case isTrue blank =>
            intro piece inPieces
            rcases List.mem_cons.mp inPieces with rfl | later
            · simp
            · exact ih piece later
        case isFalse visible =>
            cases rest : text.splitOnP isWhitespace with
            | nil => simp
            | cons head tail =>
                rw [rest] at ih
                intro piece inPieces
                rcases List.mem_cons.mp inPieces with rfl | later
                · intro char inPiece
                  rcases List.mem_cons.mp inPiece with rfl | inHead
                  · simpa using visible
                  · exact ih head List.mem_cons_self char inHead
                · exact ih piece (List.mem_cons_of_mem head later)
  exact pieces text word (List.mem_filter.mp member).1

end Support
