import Mzani.Support.Number
import Mzani.Support.Words

/-!
# The first bytes of a text

What can be read off a text that is cut after some bytes: its characters, its
second word, and the value of a numeral.
-/

namespace Support

/-! ## Characters -/

/-- The first bytes of a text and of what follows it are a text themselves:
they end with a character of the text, or what follows it starts as a text. -/
def ReadableUpTo (size : Nat) (text : Text) (more : Bytes) : Prop :=
  (∃ shown, shown <+: text ∧ (toUtf8 shown).length = size) ∨
    (toUtf8 text).length < size ∧
      (fromUtf8 (more.take (size - (toUtf8 text).length))).isSome = true

section

variable {size : Nat} {text shown : Text} {more : Bytes}

/-- What is decoded is a part of the text or all of it. -/
theorem prefix_of_fromUtf8_take
    (decoded : fromUtf8 ((toUtf8 text ++ more).take size) = some shown) :
    (shown <+: text ∧ (toUtf8 shown).length = size) ∨
      (text <+: shown ∧ (toUtf8 text).length < size ∧
        (fromUtf8 (more.take (size - (toUtf8 text).length))).isSome = true) := by
  have bytes := toUtf8_of_fromUtf8 decoded
  by_cases within : size ≤ (toUtf8 text).length
  · rw [List.take_append_of_le_length within] at bytes
    left
    constructor
    · rw [← toUtf8_isPrefix_iff, bytes]
      exact List.take_prefix _ _
    · rw [bytes, List.length_take, Nat.min_eq_left within]
  · have short : (toUtf8 text).length < size := Nat.lt_of_not_le within
    rw [List.take_append, List.take_of_length_le (Nat.le_of_lt short)] at bytes
    have isPrefix : text <+: shown := by
      rw [← toUtf8_isPrefix_iff, bytes]
      exact List.prefix_append _ _
    obtain ⟨rest, rfl⟩ := isPrefix
    rw [toUtf8_append] at bytes
    right
    refine ⟨List.prefix_append _ _, short, ?_⟩
    rw [← List.append_cancel_left bytes, fromUtf8_toUtf8]
    rfl

theorem isSome_fromUtf8_take_iff :
    (fromUtf8 ((toUtf8 text ++ more).take size)).isSome = true ↔
      ReadableUpTo size text more := by
  constructor
  · intro readable
    obtain ⟨shown, decoded⟩ := Option.isSome_iff_exists.mp readable
    rcases prefix_of_fromUtf8_take decoded with ⟨isPrefix, length⟩ | ⟨_, short, after⟩
    · exact Or.inl ⟨shown, isPrefix, length⟩
    · exact Or.inr ⟨short, after⟩
  · rintro (⟨shown, ⟨rest, rfl⟩, rfl⟩ | ⟨short, after⟩)
    · rw [toUtf8_append, List.append_assoc, List.take_left, fromUtf8_toUtf8]
      rfl
    · obtain ⟨shown, decoded⟩ := Option.isSome_iff_exists.mp after
      rw [List.take_append, List.take_of_length_le (Nat.le_of_lt short),
        ← toUtf8_of_fromUtf8 decoded, ← toUtf8_append, fromUtf8_toUtf8]
      rfl

/-- Prefixes of one text are ordered by their bytes. -/
theorem isPrefix_iff_length_toUtf8_le {first second : Text} (isFirst : first <+: text)
    (isSecond : second <+: text) :
    first <+: second ↔ (toUtf8 first).length ≤ (toUtf8 second).length := by
  have wireFirst := toUtf8_isPrefix_iff.mpr isFirst
  have wireSecond := toUtf8_isPrefix_iff.mpr isSecond
  constructor
  · intro isPrefix
    exact (toUtf8_isPrefix_iff.mpr isPrefix).length_le
  · intro shorter
    exact toUtf8_isPrefix_iff.mp (List.prefix_of_prefix_length_le wireFirst wireSecond shorter)

end

/-! ## Numerals -/

/-- As much of a numeral as it takes to tell its value: all of it, or the first
digit of a zero. -/
def tellingPart (numeral : Text) (value : Nat) : Text :=
  if value = 0 then numeral.take (if numeral.head? = some '+' then 2 else 1) else numeral

section

variable {limit value : Nat} {numeral digits short : Text}

theorem digitsValue_append (radix value : Nat) (first second : Text) :
    digitsValue radix value (first ++ second) =
      digitsValue radix (digitsValue radix value first) second :=
  List.foldl_append

theorem fromStrRadix_plus {radix : Nat} (all : AllDigits radix digits) :
    fromStrRadix limit radix ('+' :: digits) = fromStrRadix limit radix digits := by
  cases digits with
  | nil => rfl
  | cons head tail =>
      have notPlus : head ≠ '+' := by
        rintro rfl
        have plus := all '+' List.mem_cons_self
        simp [toDigit] at plus
      rw [fromStrRadix, fromStrRadix]
      all_goals simp [notPlus]

/-- More digits make a number larger, unless it is zero. -/
theorem digitsValue_prefix_eq_iff (isPrefix : short <+: digits) :
    digitsValue 10 0 short = digitsValue 10 0 digits ↔
      digitsValue 10 0 digits = 0 ∨ short = digits := by
  obtain ⟨rest, rfl⟩ := isPrefix
  rw [digitsValue_append, List.self_eq_append_right]
  generalize digitsValue 10 0 short = value
  cases rest with
  | nil => simp [digitsValue]
  | cons head tail =>
      have ten : 0 < 10 := by decide
      have grown := le_digitsValue ten (value * 10 + (toDigit 10 head).getD 0) tail
      have step : digitsValue 10 value (head :: tail) =
          digitsValue 10 (value * 10 + (toDigit 10 head).getD 0) tail := rfl
      rw [step]
      simp only [reduceCtorEq, or_false]
      omega

theorem parseUnsigned_cutDigits (nonempty : digits ≠ []) (all : AllDigits 10 digits)
    (fits : digitsValue 10 0 digits < limit) (isPrefix : short <+: digits) :
    parseUnsigned limit short = some (digitsValue 10 0 digits) ↔
      (if digitsValue 10 0 digits = 0 then digits.take 1 else digits) <+: short := by
  cases short with
  | nil =>
      have unread : parseUnsigned limit [] = none := rfl
      rw [unread, List.prefix_nil]
      split <;> simp [nonempty]
  | cons head tail =>
      have allShort : AllDigits 10 (head :: tail) := fun char member =>
        all char (isPrefix.subset member)
      rw [parseUnsigned, fromStrRadix_eq_some_iff (by decide) (Nat.zero_lt_of_lt fits)
        (List.cons_ne_nil head tail) allShort, and_iff_left fits,
        digitsValue_prefix_eq_iff isPrefix]
      split
      case isTrue zero =>
          have first : digits.take 1 <+: head :: tail := by
            obtain ⟨rest, rfl⟩ := isPrefix
            simp
          simp only [zero, true_or, first]
      case isFalse positive =>
          rw [or_iff_right positive]
          constructor
          · intro whole
            rw [whole]
          · intro longer
            exact isPrefix.eq_of_length_le longer.length_le

/-- A numeral that is cut off tells the value if its telling part is there. -/
theorem parseUnsigned_prefix_iff (positive : 0 < limit)
    (parsed : parseUnsigned limit numeral = some value) (isPrefix : short <+: numeral) :
    parseUnsigned limit short = some value ↔ tellingPart numeral value <+: short := by
  obtain ⟨digits, shape, nonempty, all, rfl, fits⟩ :=
    fromStrRadix_some (by decide) positive parsed
  have notPlus : digits.head? ≠ some '+' := by
    intro plus
    have digit := all '+' (List.mem_of_mem_head? plus)
    simp [toDigit] at digit
  rcases shape with rfl | rfl
  · rw [parseUnsigned_cutDigits nonempty all fits isPrefix, tellingPart, if_neg notPlus]
  · cases short with
    | nil =>
        have unread : parseUnsigned limit [] = none := rfl
        rw [unread, List.prefix_nil, tellingPart]
        split <;> simp
    | cons head tail =>
        obtain ⟨rfl, tailPrefix⟩ := List.cons_prefix_cons.mp isPrefix
        have allShort : AllDigits 10 tail := fun char member =>
          all char (tailPrefix.subset member)
        have telling : tellingPart ('+' :: digits) (digitsValue 10 0 digits) =
            '+' :: (if digitsValue 10 0 digits = 0 then digits.take 1 else digits) := by
          unfold tellingPart
          split <;> rfl
        rw [telling, List.cons_prefix_cons, and_iff_right rfl, parseUnsigned,
          fromStrRadix_plus allShort, ← parseUnsigned,
          parseUnsigned_cutDigits nonempty all fits tailPrefix]

theorem tellingPart_isPrefix (numeral : Text) (value : Nat) :
    tellingPart numeral value <+: numeral := by
  unfold tellingPart
  split
  · exact List.take_prefix _ _
  · exact List.prefix_rfl

theorem tellingPart_ne_nil (parsed : parseUnsigned limit numeral = some value) :
    tellingPart numeral value ≠ [] := by
  have nonempty : numeral ≠ [] := by
    rintro rfl
    cases parsed
  unfold tellingPart
  split
  · split <;> simp [nonempty]
  · exact nonempty

end

/-! ## The second word -/

/-- The text from its second word on. -/
def secondOn (text : Text) : Text :=
  ((text.dropWhile isWhitespace).dropWhile (!isWhitespace ·)).dropWhile isWhitespace

def secondWord (text : Text) : Text :=
  (secondOn text).takeWhile (!isWhitespace ·)

/-- The text before its second word. -/
def beforeSecond (text : Text) : Text :=
  text.take (text.length - (secondOn text).length)

section

variable {text front more : Text}

theorem secondOn_isSuffix (text : Text) : secondOn text <:+ text :=
  ((List.dropWhile_suffix _).trans (List.dropWhile_suffix _)).trans (List.dropWhile_suffix _)

theorem beforeSecond_append_secondOn (text : Text) :
    beforeSecond text ++ secondOn text = text :=
  List.suffix_iff_eq_append.mp (secondOn_isSuffix text)

theorem secondWord_nil_iff : secondWord text = [] ↔ secondOn text = [] := by
  have visible := List.head?_dropWhile_not isWhitespace
    ((text.dropWhile isWhitespace).dropWhile (!isWhitespace ·))
  rw [← secondOn] at visible
  unfold secondWord
  cases rest : secondOn text with
  | nil => simp
  | cons char rest =>
      rw [rest] at visible
      simpa using visible

/-- There is a second word exactly if the text has two. -/
theorem splitWhitespace_second_iff {second : Text} (nonempty : second ≠ []) :
    (∃ first others, splitWhitespace text = first :: second :: others) ↔
      secondWord text = second := by
  rw [splitWhitespace_eq text]
  dsimp only
  split
  case isTrue blank =>
      have none : secondWord text = [] := by
        rw [secondWord_nil_iff, secondOn, blank]
        rfl
      rw [none]
      simp [eq_comm, nonempty]
  case isFalse =>
      rw [splitWhitespace_eq ((text.dropWhile isWhitespace).dropWhile (!isWhitespace ·))]
      dsimp only
      rw [← secondOn, ← secondWord]
      split
      case isTrue last =>
          rw [secondWord_nil_iff.mpr last]
          simp [eq_comm, nonempty]
      case isFalse => simp

theorem dropWhile_append_of_left {p : Char → Bool} (left : front.dropWhile p ≠ []) :
    (front ++ more).dropWhile p = front.dropWhile p ++ more := by
  rw [List.dropWhile_append, if_neg (by simpa using left)]

theorem dropWhile_append_of_none {p : Char → Bool} (none : front.dropWhile p = []) :
    (front ++ more).dropWhile p <:+ more := by
  rw [List.dropWhile_append, if_pos (by simpa using none)]
  exact List.dropWhile_suffix p

theorem takeWhile_isPrefix {p : Char → Bool} (isPrefix : front <+: text) :
    front.takeWhile p <+: text.takeWhile p := by
  obtain ⟨rest, rfl⟩ := isPrefix
  rw [List.takeWhile_append]
  split
  · exact (List.takeWhile_prefix p).trans (List.prefix_append _ _)
  · exact List.prefix_rfl

/-- A text that reaches its second word still has it with more behind it. -/
theorem secondOn_append (left : secondOn front ≠ []) :
    secondOn (front ++ more) = secondOn front ++ more := by
  have first : front.dropWhile isWhitespace ≠ [] := by
    intro none
    rw [secondOn, none] at left
    exact left rfl
  have gap : (front.dropWhile isWhitespace).dropWhile (!isWhitespace ·) ≠ [] := by
    intro none
    rw [secondOn, none] at left
    exact left rfl
  rw [secondOn, dropWhile_append_of_left first, dropWhile_append_of_left gap,
    dropWhile_append_of_left left]
  rfl

/-- What comes after a text without a second word does not start before its
end. -/
theorem secondOn_append_of_none (none : secondOn front = []) :
    secondOn (front ++ more) <:+ more := by
  by_cases first : front.dropWhile isWhitespace = []
  · have rest : (front ++ more).dropWhile isWhitespace <:+ more :=
      dropWhile_append_of_none first
    exact ((List.dropWhile_suffix _).trans (List.dropWhile_suffix _)).trans rest
  · by_cases gap : (front.dropWhile isWhitespace).dropWhile (!isWhitespace ·) = []
    · rw [secondOn, dropWhile_append_of_left first]
      exact (List.dropWhile_suffix _).trans (dropWhile_append_of_none gap)
    · rw [secondOn, dropWhile_append_of_left first, dropWhile_append_of_left gap]
      exact dropWhile_append_of_none none

theorem beforeSecond_append (left : secondOn front ≠ []) :
    beforeSecond (front ++ more) = beforeSecond front := by
  have whole := beforeSecond_append_secondOn (front ++ more)
  rw [secondOn_append left, ← List.append_assoc] at whole
  have same := List.append_cancel_right whole
  conv_rhs at same => rw [← beforeSecond_append_secondOn front]
  exact List.append_cancel_right same

/-- White space ends the second word. -/
theorem secondWord_append (left : secondOn front ≠ [])
    (ended : ∀ char, more.head? = some char → isWhitespace char = true) :
    secondWord (front ++ more) = secondWord front := by
  have none : more.takeWhile (!isWhitespace ·) = [] := by
    cases more with
    | nil => rfl
    | cons char more => simp [ended char rfl]
  rw [secondWord, secondOn_append left, List.takeWhile_append, none, List.append_nil]
  split
  case isTrue whole =>
      have isPrefix := List.takeWhile_prefix (!isWhitespace ·) (l := secondOn front)
      exact (isPrefix.eq_of_length whole).symm
  case isFalse => rfl

/-- As much of a text as it takes to tell the value of its second word. -/
def upToSecond (text : Text) (value : Nat) : Text :=
  beforeSecond text ++ tellingPart (secondWord text) value

theorem upToSecond_isPrefix (text : Text) (value : Nat) : upToSecond text value <+: text := by
  have word := (tellingPart_isPrefix (secondWord text) value).trans
    (List.takeWhile_prefix _)
  conv_rhs => rw [← beforeSecond_append_secondOn text]
  exact (List.prefix_append_right_inj _).mpr word

/-- A text that is cut off tells the value of the second word if it reaches far
enough. -/
theorem parseUnsigned_secondWord_iff {limit value : Nat} (positive : 0 < limit)
    (parsed : parseUnsigned limit (secondWord text) = some value) (isPrefix : front <+: text) :
    parseUnsigned limit (secondWord front) = some value ↔
      upToSecond text value <+: front := by
  obtain ⟨more, rfl⟩ := isPrefix
  by_cases none : secondOn front = []
  · have unread : parseUnsigned limit (secondWord front) = Option.none := by
      rw [secondWord_nil_iff.mpr none]
      rfl
    rw [unread]
    simp only [reduceCtorEq, false_iff]
    intro reaches
    have behind : secondOn (front ++ more) <:+ more := secondOn_append_of_none none
    have later := behind.length_le
    have whole := congrArg List.length (beforeSecond_append_secondOn (front ++ more))
    have length := reaches.length_le
    have telling := List.length_pos_iff.mpr (tellingPart_ne_nil parsed)
    simp only [upToSecond, List.length_append] at whole length
    omega
  · have word : secondWord front <+: secondWord (front ++ more) := by
      rw [secondWord, secondWord, secondOn_append none]
      exact takeWhile_isPrefix (List.prefix_append _ _)
    have visible : ∀ char ∈ tellingPart (secondWord (front ++ more)) value,
        (!isWhitespace char) = true := by
      intro char member
      exact List.mem_takeWhile_imp (p := (!isWhitespace ·))
        ((tellingPart_isPrefix _ _).subset member)
    rw [parseUnsigned_prefix_iff positive parsed word, upToSecond, beforeSecond_append none]
    generalize tellingPart (secondWord (front ++ more)) value = telling at visible
    have behind : beforeSecond front ++ telling <+: front ↔ telling <+: secondOn front := by
      conv_lhs => rhs; rw [← beforeSecond_append_secondOn front]
      exact List.prefix_append_right_inj _
    rw [behind]
    constructor
    · intro reaches
      exact reaches.trans (List.takeWhile_prefix _)
    · intro reaches
      have shown := takeWhile_isPrefix (p := (!isWhitespace ·)) reaches
      rwa [List.takeWhile_eq_self_iff.mpr visible] at shown

end

/-! ## The first line -/

section

variable {text front line more : Text}

theorem stripCr_cases (line : Text) : line = stripCr line ∨ line = stripCr line ++ ['\r'] := by
  unfold stripCr
  split
  case isTrue last =>
      obtain ⟨start, rfl⟩ := List.getLast?_eq_some_iff.mp last
      right
      simp
  case isFalse => exact Or.inl rfl

theorem exists_lineFeed (occurs : '\n' ∈ text) :
    ∃ line rest, text = line ++ '\n' :: rest ∧ '\n' ∉ line := by
  cases found : splitOnce '\n' text with
  | none => exact absurd occurs (splitOnce_eq_none_iff.mp found)
  | some parts =>
      obtain ⟨line, rest⟩ := parts
      exact ⟨line, rest, splitOnce_eq_some_iff.mp found⟩

theorem firstLine_lineFeed (free : '\n' ∉ line) (rest : Text) :
    firstLine (line ++ '\n' :: rest) = some (stripCr line) := by
  have split : splitOnce '\n' (line ++ '\n' :: rest) = some (line, rest) :=
    splitOnce_eq_some_iff.mpr ⟨rfl, free⟩
  simp [firstLine, split]

theorem firstLine_of_free (nonempty : text ≠ []) (free : '\n' ∉ text) :
    firstLine text = some text := by
  have whole : splitOnce '\n' text = none := splitOnce_eq_none_iff.mpr free
  simp [firstLine, nonempty, whole]

/-- What follows a line feed does not change the first line. -/
theorem firstLine_append (occurs : '\n' ∈ front) :
    firstLine (front ++ more) = firstLine front := by
  obtain ⟨line, rest, rfl, free⟩ := exists_lineFeed occurs
  rw [List.append_assoc, List.cons_append, firstLine_lineFeed free, firstLine_lineFeed free]

/-- White space follows the first line. -/
theorem firstLine_followed (occurs : '\n' ∈ text) (first : firstLine text = some line) :
    ∃ more, text = line ++ more ∧
      ∀ char, more.head? = some char → isWhitespace char = true := by
  obtain ⟨whole, rest, rfl, free⟩ := exists_lineFeed occurs
  rw [firstLine_lineFeed free, Option.some.injEq] at first
  subst first
  rcases stripCr_cases whole with bare | stripped
  · refine ⟨'\n' :: rest, by rw [← bare], ?_⟩
    rintro char ⟨⟩
    rfl
  · refine ⟨'\r' :: '\n' :: rest, ?_, ?_⟩
    · conv_lhs => rw [stripped]
      simp
    · rintro char ⟨⟩
      rfl

end

end Support
