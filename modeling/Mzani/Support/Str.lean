import Mathlib.Data.List.DropRight
import Mzani.Support.PairSplit
import Mzani.Support.Utf8

/-!
# String operations

The operations on text that line-oriented parsers use, with the behaviour the
Rust standard library documents for `str`: white space is the Unicode
`White_Space` property, a line ends at a line feed and loses one preceding
carriage return, and letter case is ignored for ASCII letters only.
-/

namespace Support

/-- `char::is_whitespace`: the Unicode `White_Space` property. -/
def isWhitespace (char : Char) : Bool :=
  let code := char.toNat
  (9 ≤ code && code ≤ 13) || code == 0x20 || code == 0x85 || code == 0xA0 ||
    code == 0x1680 || (0x2000 ≤ code && code ≤ 0x200A) || code == 0x2028 ||
    code == 0x2029 || code == 0x202F || code == 0x205F || code == 0x3000

/-- `str::trim` -/
def trim (text : Text) : Text :=
  (text.dropWhile isWhitespace).rdropWhile isWhitespace

/-- A text that `trim` leaves alone. -/
def Trimmed (text : Text) : Prop := trim text = text

instance : DecidablePred Trimmed := fun text =>
  inferInstanceAs (Decidable (trim text = text))

theorem trim_isInfix (text : Text) : trim text <:+: text :=
  (List.rdropWhile_prefix isWhitespace _).isInfix.trans
    (List.dropWhile_suffix isWhitespace).isInfix

private theorem dropWhile_rdropWhile_of_head
    {text : Text} (headFixed : text.dropWhile isWhitespace = text) :
    (text.rdropWhile isWhitespace).dropWhile isWhitespace =
      text.rdropWhile isWhitespace := by
  rw [List.dropWhile_eq_self_iff] at headFixed ⊢
  intro nonempty
  have isPrefix := List.rdropWhile_prefix isWhitespace text
  have textNonempty : 0 < text.length :=
    Nat.lt_of_lt_of_le nonempty isPrefix.length_le
  rw [isPrefix.getElem]
  exact headFixed textNonempty

/-- Trimming leaves a trimmed text. -/
theorem trimmed_trim (text : Text) : Trimmed (trim text) := by
  have headFixed :
      (text.dropWhile isWhitespace).dropWhile isWhitespace =
        text.dropWhile isWhitespace := List.dropWhile_idempotent _ _
  unfold Trimmed
  rw [trim, trim, dropWhile_rdropWhile_of_head headFixed,
    List.rdropWhile_idempotent]

private theorem Trimmed.dropWhile {text : Text} (trimmed : Trimmed text) :
    text.dropWhile isWhitespace = text := by
  have short := (List.rdropWhile_prefix isWhitespace
    (text.dropWhile isWhitespace)).length_le
  have suffix : text.dropWhile isWhitespace <:+ text :=
    List.dropWhile_suffix isWhitespace
  have trimLength : (trim text).length = text.length :=
    congrArg List.length trimmed
  exact suffix.eq_of_length_le (by simpa [← trimLength, trim] using short)

private theorem Trimmed.rdropWhile {text : Text} (trimmed : Trimmed text) :
    text.rdropWhile isWhitespace = text := by
  have whole := trimmed
  unfold Trimmed at whole
  rwa [trim, trimmed.dropWhile] at whole

/-- A text without white space has nothing to trim. -/
theorem trimmed_of_visible {text : Text}
    (visible : ∀ char ∈ text, isWhitespace char = false) : Trimmed text := by
  have left : text.dropWhile isWhitespace = text := by
    rw [List.dropWhile_eq_self_iff]
    intro nonempty
    simp [visible text[0] (List.getElem_mem nonempty)]
  have right : text.rdropWhile isWhitespace = text := by
    rw [List.rdropWhile_eq_self_iff]
    intro nonempty
    simp [visible _ (List.getLast_mem nonempty)]
  rw [Trimmed, trim, left, right]

/-- Blanks around a trimmed text are removed and nothing else. -/
theorem trim_padded {before text after : Text}
    (beforeBlank : ∀ char ∈ before, isWhitespace char = true)
    (afterBlank : ∀ char ∈ after, isWhitespace char = true)
    (trimmed : Trimmed text) :
    trim (before ++ text ++ after) = text := by
  have rightEnd : (text ++ after).rdropWhile isWhitespace = text := by
    have reversed := trimmed.rdropWhile
    simp only [List.rdropWhile, List.reverse_append] at reversed ⊢
    rw [List.dropWhile_append_of_pos (by simpa using afterBlank)]
    exact reversed
  rw [trim, List.append_assoc, List.dropWhile_append_of_pos beforeBlank]
  cases text with
  | nil =>
      have allBlank : after.dropWhile isWhitespace = [] :=
        List.dropWhile_eq_nil_iff.mpr afterBlank
      simp [allBlank]
  | cons head tail =>
      have headVisible : isWhitespace head = false := by
        have fixed := trimmed.dropWhile
        rw [List.dropWhile_eq_self_iff] at fixed
        simpa using fixed
      rw [List.cons_append, List.dropWhile_cons_of_neg (by simp [headVisible])]
      exact rightEnd

/-- What trimming removes is white space. -/
theorem trim_split (text : Text) :
    ∃ before after, text = before ++ trim text ++ after ∧
      (∀ char ∈ before, isWhitespace char = true) ∧
      ∀ char ∈ after, isWhitespace char = true := by
  refine ⟨text.takeWhile isWhitespace,
    (text.dropWhile isWhitespace).rtakeWhile isWhitespace, ?_, ?_, ?_⟩
  · rw [trim, List.append_assoc, List.rdropWhile_append_rtakeWhile,
      List.takeWhile_append_dropWhile]
  · intro char member
    exact List.mem_takeWhile_imp member
  · intro char member
    exact List.mem_rtakeWhile_imp member

/-- `str::split_once` at a character: the text before its first occurrence
and the text after it. -/
def splitOnce (separator : Char) : Text → Option (Text × Text)
  | [] => none
  | head :: tail =>
      if head = separator then some ([], tail)
      else
        (splitOnce separator tail).map fun (before, after) =>
          (head :: before, after)

theorem splitOnce_eq_some_iff {separator : Char} {text before after : Text} :
    splitOnce separator text = some (before, after) ↔
      text = before ++ separator :: after ∧ separator ∉ before := by
  induction text generalizing before with
  | nil => simp [splitOnce]
  | cons head tail induction =>
      by_cases same : head = separator
      · subst head
        cases before with
        | nil => simp [splitOnce, eq_comm]
        | cons symbol before => simp [splitOnce]; grind
      · cases before with
        | nil => simp [splitOnce, same]
        | cons symbol before =>
            simp [splitOnce, same, induction]
            grind

theorem splitOnce_eq_none_iff {separator : Char} {text : Text} :
    splitOnce separator text = none ↔ separator ∉ text := by
  induction text with
  | nil => simp [splitOnce]
  | cons head tail induction =>
      by_cases same : head = separator
      · simp [splitOnce, same]
      · simp [splitOnce, same, induction, Ne.symm same]

/-- One trailing carriage return removed. -/
def stripCr (line : Text) : Text :=
  if line.getLast? = some '\r' then line.dropLast else line

/-- `str::lines().next()`: the text up to the first line feed without the
carriage return before it; the whole text when it has no line feed. -/
def firstLine (text : Text) : Option Text :=
  if text = [] then none
  else
    match splitOnce '\n' text with
    | some (line, _) => some (stripCr line)
    | none => some text

theorem firstLine_crlf {line : Text} (rest : Text) (free : '\n' ∉ line) :
    firstLine (line ++ '\r' :: '\n' :: rest) = some line := by
  have found : splitOnce '\n' (line ++ '\r' :: '\n' :: rest) =
      some (line ++ ['\r'], rest) := by
    rw [splitOnce_eq_some_iff]
    simp [free]
  simp [firstLine, found, stripCr]

theorem firstLine_free {text line : Text}
    (first : firstLine text = some line) : '\n' ∉ line := by
  unfold firstLine at first
  split at first
  · simp at first
  · cases found : splitOnce '\n' text with
    | none =>
        rw [found] at first
        simp only [Option.some.injEq] at first
        rw [← first]
        exact splitOnce_eq_none_iff.mp found
    | some parts =>
        obtain ⟨before, after⟩ := parts
        rw [found] at first
        simp only [Option.some.injEq] at first
        have beforeFree := (splitOnce_eq_some_iff.mp found).2
        rw [← first]
        unfold stripCr
        split
        · exact fun member => beforeFree (List.dropLast_subset _ member)
        · exact beforeFree

/-- `str::split_whitespace` -/
def splitWhitespace (text : Text) : List Text :=
  (text.splitOnP isWhitespace).filter (· ≠ [])

/-- `str::split(separator).next()` -/
def firstPiece (separator : Char) (text : Text) : Text :=
  text.takeWhile (· ≠ separator)

/-- `str::eq_ignore_ascii_case`; `Char.toLower` changes ASCII letters only. -/
def eqIgnoreAsciiCase (left right : Text) : Bool :=
  left.map Char.toLower == right.map Char.toLower

/-- White space has no letter case. -/
theorem toLower_of_isWhitespace {char : Char} (blank : isWhitespace char = true) :
    char.toLower = char := by
  unfold Char.toLower
  split
  · rename_i bounds
    have lower : 65 ≤ char.toNat := bounds.1
    have upper : char.toNat ≤ 90 := bounds.2
    simp [isWhitespace] at blank
    omega
  · rfl

@[simp] theorem eqIgnoreAsciiCase_refl (text : Text) :
    eqIgnoreAsciiCase text text = true := by
  simp [eqIgnoreAsciiCase]

end Support
