import Mzani.Support.Str

/-!
# Unsigned numerals

Checked conversion of digit strings to bounded natural numbers, as the Rust
standard library's integer parsers perform it: one optional plus sign, at least
one digit, and failure as soon as the value leaves the range.
-/

namespace Support

/-- `char::to_digit` -/
def toDigit (radix : Nat) (char : Char) : Option Nat :=
  let value :=
    if '0' ≤ char ∧ char ≤ '9' then char.toNat - '0'.toNat
    else if 'a' ≤ char ∧ char ≤ 'z' then char.toNat - 'a'.toNat + 10
    else if 'A' ≤ char ∧ char ≤ 'Z' then char.toNat - 'A'.toNat + 10
    else radix
  if value < radix then some value else none

/-- The digit loop; `limit` is one more than the largest value of the type. -/
def readDigits (limit radix : Nat) (value : Nat) : Text → Option Nat
  | [] => some value
  | head :: tail =>
      match toDigit radix head with
      | none => none
      | some digit =>
          let next := value * radix + digit
          if next < limit then readDigits limit radix next tail else none

/-- `from_str_radix` of an unsigned type with `limit` values. -/
def fromStrRadix (limit radix : Nat) : Text → Option Nat
  | [] => none
  | ['+'] => none
  | '+' :: digits => readDigits limit radix 0 digits
  | digits => readDigits limit radix 0 digits

/-- `str::parse` for an unsigned type with `limit` values. -/
def parseUnsigned (limit : Nat) (text : Text) : Option Nat :=
  fromStrRadix limit 10 text

/-- The value of a string of digits. -/
def digitsValue (radix : Nat) (value : Nat) (digits : Text) : Nat :=
  digits.foldl (fun sum char => sum * radix + (toDigit radix char).getD 0) value

def AllDigits (radix : Nat) (digits : Text) : Prop :=
  ∀ char ∈ digits, (toDigit radix char).isSome

instance (radix : Nat) : DecidablePred (AllDigits radix) := fun digits =>
  inferInstanceAs (Decidable (∀ char ∈ digits, (toDigit radix char).isSome))

/-- No digit is white space. -/
theorem isWhitespace_of_toDigit {radix : Nat} {char : Char}
    (digit : (toDigit radix char).isSome) : isWhitespace char = false := by
  have inRange : 48 ≤ char.toNat ∧ char.toNat ≤ 57 ∨
      65 ≤ char.toNat ∧ char.toNat ≤ 122 := by
    unfold toDigit at digit
    split at digit
    · rename_i bounds
      exact Or.inl bounds
    · split at digit
      · rename_i _ bounds
        have lower : 97 ≤ char.toNat := bounds.1
        have upper : char.toNat ≤ 122 := bounds.2
        omega
      · split at digit
        · rename_i _ _ bounds
          have lower : 65 ≤ char.toNat := bounds.1
          have upper : char.toNat ≤ 90 := bounds.2
          omega
        · simp at digit
  simp only [isWhitespace, Bool.or_eq_false_iff, Bool.and_eq_false_iff,
    decide_eq_false_iff_not, beq_eq_false_iff_ne]
  omega

theorem le_digitsValue {radix : Nat} (positive : 0 < radix) (value : Nat)
    (digits : Text) : value ≤ digitsValue radix value digits := by
  induction digits generalizing value with
  | nil => exact Nat.le_refl value
  | cons head tail induction =>
      have grown := induction (value * radix + (toDigit radix head).getD 0)
      have scaled : value ≤ value * radix := Nat.le_mul_of_pos_right value positive
      simp only [digitsValue, List.foldl_cons] at grown ⊢
      omega

/-- The checked loop succeeds exactly on digit strings whose value fits. -/
theorem readDigits_eq_some_iff {limit radix value result : Nat}
    (positive : 0 < radix) {digits : Text} (small : value < limit) :
    readDigits limit radix value digits = some result ↔
      AllDigits radix digits ∧ digitsValue radix value digits = result ∧
        result < limit := by
  induction digits generalizing value with
  | nil =>
      simp [readDigits, AllDigits, digitsValue]
      rintro rfl
      exact small
  | cons head tail induction =>
      cases found : toDigit radix head with
      | none => simp [readDigits, found, AllDigits]
      | some digit =>
          by_cases fits : value * radix + digit < limit
          · have tailResult := induction fits
            simp only [readDigits, found, fits, if_true, tailResult]
            simp [AllDigits, digitsValue, found]
          · have grown := le_digitsValue positive (value * radix + digit) tail
            simp only [readDigits, found, fits, if_false]
            simp only [digitsValue, List.foldl_cons, found, Option.getD_some]
              at grown ⊢
            constructor
            · simp
            · rintro ⟨_, rfl, within⟩
              omega

/-- A digit string is read as its value, if that fits. -/
theorem fromStrRadix_eq_some_iff {limit radix value : Nat} (positive : 0 < radix)
    (limitPositive : 0 < limit) {digits : Text} (nonempty : digits ≠ [])
    (all : AllDigits radix digits) :
    fromStrRadix limit radix digits = some value ↔
      digitsValue radix 0 digits = value ∧ value < limit := by
  have read : readDigits limit radix 0 digits = some value ↔
      AllDigits radix digits ∧ digitsValue radix 0 digits = value ∧ value < limit :=
    readDigits_eq_some_iff positive limitPositive
  cases digits with
  | nil => exact (nonempty rfl).elim
  | cons head tail =>
      have notPlus : head ≠ '+' := by
        rintro rfl
        have plus := all '+' (by simp)
        simp [toDigit] at plus
      rw [fromStrRadix]
      · rw [read]
        exact and_iff_right all
      all_goals simp [notPlus]

theorem fromStrRadix_digits {limit radix : Nat} (positive : 0 < radix)
    {digits : Text} (nonempty : digits ≠ []) (all : AllDigits radix digits)
    (fits : digitsValue radix 0 digits < limit) :
    fromStrRadix limit radix digits = some (digitsValue radix 0 digits) :=
  (fromStrRadix_eq_some_iff positive (Nat.zero_lt_of_lt fits) nonempty all).mpr
    ⟨rfl, fits⟩

/-- What an accepted numeral looks like. -/
theorem fromStrRadix_some {limit radix result : Nat} (positive : 0 < radix)
    (limitPositive : 0 < limit) {text : Text}
    (parsed : fromStrRadix limit radix text = some result) :
    ∃ digits, (text = digits ∨ text = '+' :: digits) ∧ digits ≠ [] ∧
      AllDigits radix digits ∧ digitsValue radix 0 digits = result ∧
      result < limit := by
  revert parsed
  fun_cases fromStrRadix limit radix text with
  | case1 => simp
  | case2 => simp
  | case3 digits notLone =>
      intro parsed
      exact ⟨digits, Or.inr rfl, by simpa using notLone,
        (readDigits_eq_some_iff positive limitPositive).mp parsed⟩
  | case4 _ notEmpty _ _ =>
      intro parsed
      exact ⟨text, Or.inl rfl, notEmpty,
        (readDigits_eq_some_iff positive limitPositive).mp parsed⟩

theorem toDigit_of_isDigit {char : Char} (digit : char.isDigit = true) :
    toDigit 10 char = some (char.toNat - '0'.toNat) := by
  simp only [Char.isDigit, Bool.and_eq_true, decide_eq_true_eq] at digit
  have bounds : '0' ≤ char ∧ char ≤ '9' := digit
  have upper : char.toNat ≤ 57 := digit.2
  have small : char.toNat - '0'.toNat < 10 := by
    have zero : '0'.toNat = 48 := rfl
    omega
  simp only [toDigit, if_pos bounds, if_pos small]

private theorem digitsValue_eq_ofDigitChars {digits : Text} (value : Nat)
    (all : ∀ char ∈ digits, char.isDigit = true) :
    digitsValue 10 value digits = Nat.ofDigitChars 10 digits value := by
  induction digits generalizing value with
  | nil => rfl
  | cons head tail induction =>
      have headDigit := toDigit_of_isDigit (all head (by simp))
      have tailValue := induction (value * 10 + (head.toNat - '0'.toNat))
        (fun char member => all char (List.mem_cons_of_mem _ member))
      simp only [digitsValue, List.foldl_cons, headDigit, Option.getD_some]
        at tailValue ⊢
      rw [tailValue, Nat.ofDigitChars_cons, Nat.mul_comm]

theorem allDigits_toDigits (number : Nat) : AllDigits 10 (Nat.toDigits 10 number) := by
  intro char member
  have digit := Nat.isDigit_of_mem_toDigits (by decide) (by decide) member
  simp [toDigit_of_isDigit digit]

/-- The printed form of a number is read back. -/
theorem parseUnsigned_toDigits {limit number : Nat} (fits : number < limit) :
    parseUnsigned limit (Nat.toDigits 10 number) = some number := by
  have isDigit : ∀ char ∈ Nat.toDigits 10 number, char.isDigit = true :=
    fun _ member => Nat.isDigit_of_mem_toDigits (by decide) (by decide) member
  have value : digitsValue 10 0 (Nat.toDigits 10 number) = number := by
    rw [digitsValue_eq_ofDigitChars 0 isDigit, Nat.ofDigitChars_ten_toDigits]
  have read := fromStrRadix_digits (by decide) Nat.toDigits_ne_nil
    (allDigits_toDigits number) (by rwa [value])
  rwa [value] at read

end Support
