import Mzani.Support.Quoting
import Mzani.Support.Words

/-!
# Texts of one line

Texts without line feeds and carriage returns.
-/

namespace Support

def OneLine (text : Text) : Prop :=
  ∀ char ∈ text, char ≠ '\n' ∧ char ≠ '\r'

instance : DecidablePred OneLine := fun text =>
  inferInstanceAs (Decidable (∀ char ∈ text, char ≠ '\n' ∧ char ≠ '\r'))

@[simp] theorem oneLine_nil : OneLine [] := by
  intro char member
  cases member

@[simp] theorem oneLine_cons {char : Char} {text : Text} :
    OneLine (char :: text) ↔ (char ≠ '\n' ∧ char ≠ '\r') ∧ OneLine text :=
  List.forall_mem_cons

@[simp] theorem oneLine_append {first second : Text} :
    OneLine (first ++ second) ↔ OneLine first ∧ OneLine second :=
  List.forall_mem_append

theorem OneLine.of_subset {text whole : Text} (line : OneLine whole) (subset : text ⊆ whole) :
    OneLine text := by
  intro char member
  exact line char (subset member)

theorem oneLine_flatten {pieces : List Text} :
    OneLine pieces.flatten ↔ ∀ piece ∈ pieces, OneLine piece := by
  induction pieces with
  | nil => simp
  | cons piece pieces ih => rw [List.flatten_cons, oneLine_append, ih, List.forall_mem_cons]

theorem oneLine_intersperse {separator : Text} {pieces : List Text} (line : OneLine separator)
    (lines : ∀ piece ∈ pieces, OneLine piece) :
    OneLine (pieces.intersperse separator).flatten := by
  rw [oneLine_flatten]
  induction pieces with
  | nil => simp
  | cons first pieces ih =>
      cases pieces with
      | nil => simpa using lines
      | cons second others =>
          have here := lines first List.mem_cons_self
          have rest := ih fun piece member => lines piece (List.mem_cons_of_mem first member)
          rw [List.intersperse_cons_cons, List.forall_mem_cons, List.forall_mem_cons]
          exact ⟨here, line, rest⟩

/-- Words are on one line. -/
theorem oneLine_of_visible {text : Text} (visible : ∀ char ∈ text, isWhitespace char = false) :
    OneLine text := by
  intro char member
  have shown := visible char member
  constructor
  · rintro rfl
    cases shown
  · rintro rfl
    cases shown

theorem oneLine_escapeQuotes {text : Text} :
    OneLine (escapeQuotes '"' '\\' text) ↔ OneLine text := by
  induction text with
  | nil => rfl
  | cons char text ih =>
      rw [escapeQuotes_cons, oneLine_append, ih, oneLine_cons]
      split
      case isTrue quote => simp [quote]
      case isFalse => simp

/-! ## Numbers -/

theorem digitChar_ne_lineBreak (digit : Nat) :
    Nat.digitChar digit ≠ '\n' ∧ Nat.digitChar digit ≠ '\r' := by
  by_cases small : digit < 16
  · have all : ∀ digit : Fin 16,
        Nat.digitChar digit ≠ '\n' ∧ Nat.digitChar digit ≠ '\r' := by decide
    exact all ⟨digit, small⟩
  · obtain ⟨more, rfl⟩ := Nat.exists_eq_add_of_le' (Nat.le_of_not_lt small)
    have other : Nat.digitChar (more + 16) = '*' := rfl
    rw [other]
    decide

theorem oneLine_toDigitsCore (base fuel number : Nat) {digits : Text} (line : OneLine digits) :
    OneLine (Nat.toDigitsCore base fuel number digits) := by
  induction fuel generalizing number digits with
  | zero => exact line
  | succ fuel ih =>
      have longer : OneLine (Nat.digitChar (number % base) :: digits) :=
        oneLine_cons.mpr ⟨digitChar_ne_lineBreak _, line⟩
      rw [Nat.toDigitsCore]
      split
      · exact longer
      · exact ih _ longer

theorem oneLine_toDigits (base number : Nat) : OneLine (Nat.toDigits base number) :=
  oneLine_toDigitsCore base _ number oneLine_nil

end Support
