import Mathlib.Data.List.DropRight

/-!
# Runs at the end of a history

Histories of outcomes, read from their end: the length of the run of a value
there, which of two events was the later one, and the points at which a status
flips.
-/

namespace Support

universe u

variable {α : Type u}

section

variable [DecidableEq α]

/-- Length of the run of the value at the end of the history. -/
def trailingRun (value : α) (history : List α) : Nat :=
  (history.rtakeWhile (· = value)).length

@[simp] theorem trailingRun_nil (value : α) : trailingRun value [] = 0 := by
  simp [trailingRun]

theorem trailingRun_concat_self (value : α) (history : List α) :
    trailingRun value (history ++ [value]) = trailingRun value history + 1 := by
  simp [trailingRun]

theorem trailingRun_concat_other {value last : α} (different : last ≠ value)
    (history : List α) : trailingRun value (history ++ [last]) = 0 := by
  simp [trailingRun, different]

end

/-- The first event has happened, and the second one not since. -/
def LatestIs (first second : List α → Prop) (history : List α) : Prop :=
  ∃ moment, moment ≤ history.length ∧ first (history.take moment) ∧
    ∀ later, moment < later → later ≤ history.length → ¬second (history.take later)

variable {first second : List α → Prop} {history : List α} {last : α}

theorem latestIs_nil_iff : LatestIs first second [] ↔ first [] := by
  constructor
  · rintro ⟨moment, _, happened, _⟩
    simpa using happened
  · intro happened
    refine ⟨0, le_rfl, happened, ?_⟩
    intro later after bound
    exact absurd (Nat.lt_of_lt_of_le after bound) (Nat.lt_irrefl 0)

/-- One more outcome makes the first event happen, or leaves it the latest. -/
theorem latestIs_concat_iff :
    LatestIs first second (history ++ [last]) ↔
      first (history ++ [last]) ∨
        (LatestIs first second history ∧ ¬second (history ++ [last])) := by
  have whole : (history ++ [last]).take (history.length + 1) = history ++ [last] := by
    apply List.take_of_length_le
    simp
  have before {moment : Nat} (bound : moment ≤ history.length) :
      (history ++ [last]).take moment = history.take moment :=
    List.take_append_of_le_length bound
  constructor
  · rintro ⟨moment, bound, happened, notSince⟩
    rw [List.length_append, List.length_singleton] at bound
    by_cases now : moment = history.length + 1
    · subst moment
      rw [whole] at happened
      exact .inl happened
    · have earlier : moment ≤ history.length := by omega
      right
      constructor
      · refine ⟨moment, earlier, by rwa [before earlier] at happened, ?_⟩
        intro later after within
        have absent := notSince later after (by simp; omega)
        rwa [before within] at absent
      · have absent := notSince (history.length + 1) (by omega) (by simp)
        rwa [whole] at absent
  · rintro (happened | ⟨⟨moment, bound, happened, notSince⟩, absent⟩)
    · refine ⟨history.length + 1, by simp, by rwa [whole], ?_⟩
      intro later after within
      simp at within
      omega
    · refine ⟨moment, by simp; omega, by rwa [before bound], ?_⟩
      intro later after within
      by_cases now : later = history.length + 1
      · subst later
        rwa [whole]
      · have earlier : later ≤ history.length := by
          simp at within
          omega
        rw [before earlier]
        exact notSince later after earlier

/-! ## Flips -/

/-- The values that differ from the value before them. -/
def flips (current : Bool) : List Bool → List Bool
  | [] => []
  | value :: values =>
      if value = current then flips current values else value :: flips value values

/-- The flips alternate, and the first one leaves the value at the start. -/
theorem isChain_flips (current : Bool) (values : List Bool) :
    (current :: flips current values).IsChain (· ≠ ·) := by
  induction values generalizing current with
  | nil => exact .singleton current
  | cons value values ih =>
      by_cases same : value = current
      · simpa [flips, same] using ih current
      · rw [flips, if_neg same]
        exact .cons_cons (Ne.symm same) (ih value)

end Support
