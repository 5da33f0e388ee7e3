import Mathlib.Data.List.Basic

/-!
# Quoting

Text between quotes in which each quote is escaped, and the reader that ends at
the first quote that is not.  The escape symbol itself is not escaped, so a text
that ends with it hides the closing quote.
-/

namespace Support

variable {α : Type} [DecidableEq α] (quote escape : α)

/-- An escape symbol before each quote. -/
def escapeQuotes (text : List α) : List α :=
  text.flatMap fun symbol => if symbol = quote then [escape, quote] else [symbol]

/-- Each escaped quote becomes a quote, from left to right. -/
def unescapeQuotes : List α → List α
  | [] => []
  | [symbol] => [symbol]
  | symbol :: next :: text =>
      if symbol = escape ∧ next = quote then quote :: unescapeQuotes text
      else symbol :: unescapeQuotes (next :: text)

/-- The text up to the first quote without an escape symbol before it, and what
follows that quote. -/
def untilQuote : (escaped : Bool) → List α → Option (List α × List α)
  | _, [] => none
  | escaped, symbol :: text =>
      if symbol = quote ∧ escaped = false then some ([], text)
      else (untilQuote (symbol = escape) text).map fun (inner, rest) => (symbol :: inner, rest)

/-- Whether the last symbol is the escape symbol. -/
def endsEscaped (escaped : Bool) (text : List α) : Bool :=
  text.getLast?.elim escaped (· = escape)

variable {quote escape}

@[simp] theorem escapeQuotes_nil : escapeQuotes quote escape [] = [] := rfl

theorem escapeQuotes_cons (symbol : α) (text : List α) :
    escapeQuotes quote escape (symbol :: text) =
      (if symbol = quote then [escape, quote] else [symbol]) ++
        escapeQuotes quote escape text := rfl

theorem escapeQuotes_append (first second : List α) :
    escapeQuotes quote escape (first ++ second) =
      escapeQuotes quote escape first ++ escapeQuotes quote escape second :=
  List.flatMap_append

theorem endsEscaped_cons (escaped : Bool) (symbol : α) (text : List α) :
    endsEscaped escape escaped (symbol :: text) =
      endsEscaped escape (symbol = escape) text := by
  cases text with
  | nil => rfl
  | cons next text =>
      rw [endsEscaped, endsEscaped, List.getLast?_cons_cons,
        List.getLast?_eq_some_getLast (List.cons_ne_nil next text)]
      rfl

theorem unescapeQuotes_cons {symbol : α} {text : List α}
    (plain : symbol = escape → text.head? ≠ some quote) :
    unescapeQuotes quote escape (symbol :: text) =
      symbol :: unescapeQuotes quote escape text := by
  cases text with
  | nil => rfl
  | cons next text =>
      rw [unescapeQuotes, if_neg]
      rintro ⟨same, rfl⟩
      exact plain same rfl

/-- A quoted text does not begin with a quote. -/
theorem head?_escapeQuotes_append (different : escape ≠ quote) (text : List α)
    {rest : List α} (noQuote : rest.head? ≠ some quote) :
    (escapeQuotes quote escape text ++ rest).head? ≠ some quote := by
  cases text with
  | nil => exact noQuote
  | cons symbol text =>
      rw [escapeQuotes_cons]
      split
      case isTrue => simpa using different
      case isFalse other => simpa using other

theorem unescapeQuotes_escapeQuotes_append (different : escape ≠ quote) (text : List α)
    {rest : List α} (noQuote : rest.head? ≠ some quote) :
    unescapeQuotes quote escape (escapeQuotes quote escape text ++ rest) =
      text ++ unescapeQuotes quote escape rest := by
  induction text with
  | nil => rfl
  | cons symbol text ih =>
      rw [escapeQuotes_cons]
      split
      case isTrue same =>
          subst same
          simp [unescapeQuotes, ih]
      case isFalse other =>
          have plain : symbol = escape →
              (escapeQuotes quote escape text ++ rest).head? ≠ some quote :=
            fun _ => head?_escapeQuotes_append different text noQuote
          rw [List.append_assoc, List.singleton_append, unescapeQuotes_cons plain, ih]
          rfl

/-- No quote of a quoted text ends it. -/
theorem untilQuote_escapeQuotes_append (different : escape ≠ quote) (escaped : Bool)
    (text rest : List α) :
    untilQuote quote escape escaped (escapeQuotes quote escape text ++ rest) =
      (untilQuote quote escape (endsEscaped escape escaped text) rest).map fun (inner, rest) =>
        (escapeQuotes quote escape text ++ inner, rest) := by
  induction text generalizing escaped with
  | nil => simp [endsEscaped]
  | cons symbol text ih =>
      rw [endsEscaped_cons, escapeQuotes_cons]
      split
      case isTrue same =>
          subst same
          have notEscape : ¬symbol = escape := different.symm
          simp [untilQuote, different, notEscape, ih, Function.comp_def]
      case isFalse other =>
          simp [untilQuote, other, ih, Function.comp_def]

/-- The closing quote is found exactly behind the text, unless the text hides
it. -/
theorem untilQuote_closed (different : escape ≠ quote) {text : List α}
    (noEscape : text.getLast? ≠ some escape) (rest : List α) :
    untilQuote quote escape false (escapeQuotes quote escape text ++ quote :: rest) =
      some (escapeQuotes quote escape text, rest) := by
  have visible : endsEscaped escape false text = false := by
    cases last : text.getLast? with
    | none => simp [endsEscaped, last]
    | some symbol =>
        rw [last, ne_eq, Option.some.injEq] at noEscape
        simp [endsEscaped, last, noEscape]
  rw [untilQuote_escapeQuotes_append different, visible]
  simp [untilQuote]

/-- A text that ends with the escape symbol is read as another one, if at all. -/
theorem untilQuote_hidden (different : escape ≠ quote) {text rest inner after : List α}
    (read : untilQuote quote escape false
      (escapeQuotes quote escape (text ++ [escape]) ++ quote :: rest) = some (inner, after)) :
    unescapeQuotes quote escape inner ≠ text ++ [escape] := by
  have hides : endsEscaped escape false (text ++ [escape]) = true := by
    simp [endsEscaped]
  rw [untilQuote_escapeQuotes_append different, hides, Option.map_eq_some_iff] at read
  obtain ⟨⟨further, last⟩, passed, same⟩ := read
  simp only [untilQuote, Bool.true_eq_false, and_false, if_false, Option.map_eq_some_iff]
    at passed
  obtain ⟨⟨more, _⟩, _, passedSame⟩ := passed
  cases passedSame
  cases same
  have shape : escapeQuotes quote escape (text ++ [escape]) ++ quote :: more =
      escapeQuotes quote escape text ++ escape :: quote :: more := by
    simp [escapeQuotes_append, escapeQuotes_cons, different]
  have noQuote : (escape :: quote :: more).head? ≠ some quote := by simpa using different
  rw [shape, unescapeQuotes_escapeQuotes_append different text noQuote]
  intro equal
  have tail := List.append_cancel_left equal
  rw [unescapeQuotes, if_pos ⟨rfl, rfl⟩, List.cons.injEq] at tail
  exact different tail.1.symm

end Support
