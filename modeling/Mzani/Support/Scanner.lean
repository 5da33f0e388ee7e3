import Mathlib.Algebra.GroupWithZero.Nat
import Mzani.Support.Number

/-!
# Scanners

Parsers that take a value off the front of a text, or fail and leave it as it
is, in the way of the standard library's parser of addresses: numbers of a
bounded length or with a bounded value, and separated values.
-/

namespace Support

/-- A value off the front of a text, and what is left. -/
abbrev Scanner (α : Type) : Type := Text → Option (α × Text)

namespace Scanner

variable {α : Type}

/-- `read_given_char` -/
def givenChar (target : Char) : Scanner Unit
  | [] => none
  | head :: tail => if head = target then some ((), tail) else none

/-- `read_separator`: the first one of several values has no separator. -/
def separated (separator : Char) (index : Nat) (inner : Scanner α) : Scanner α := fun text =>
  if 0 < index then
    match givenChar separator text with
    | none => none
    | some (_, rest) => inner rest
  else inner text

/-- The loop of `read_number` over at most so many digits. -/
def boundedDigits (radix maxDigits : Nat) :
    (value count : Nat) → Text → Option (Nat × Nat × Text)
  | value, count, [] => some (value, count, [])
  | value, count, head :: tail =>
      match toDigit radix head with
      | none => some (value, count, head :: tail)
      | some digit =>
          if maxDigits < count + 1 then none
          else boundedDigits radix maxDigits (value * radix + digit) (count + 1) tail

/-- The loop of `read_number` with checked arithmetic. -/
def checkedDigits (limit radix : Nat) :
    (value count : Nat) → Text → Option (Nat × Nat × Text)
  | value, count, [] => some (value, count, [])
  | value, count, head :: tail =>
      match toDigit radix head with
      | none => some (value, count, head :: tail)
      | some digit =>
          let next := value * radix + digit
          if next < limit then checkedDigits limit radix next (count + 1) tail else none

/-- The digits of a number: their value, how many they are, and what is left. -/
def digitLoop (limit radix : Nat) : (maxDigits : Option Nat) → Text → Option (Nat × Nat × Text)
  | some maxDigits, text => boundedDigits radix maxDigits 0 0 text
  | none, text => checkedDigits limit radix 0 0 text

/-- `read_number` of a type with `limit` values. -/
def number (limit radix : Nat) (maxDigits : Option Nat) (allowZeroPrefix : Bool) :
    Scanner Nat := fun text =>
  match digitLoop limit radix maxDigits text with
  | none => none
  | some (value, count, rest) =>
      if count = 0 then none
      else if allowZeroPrefix = false ∧ text.head? = some '0' ∧ 1 < count then none
      else if value < limit then some (value, rest)
      else none

/-- `parse_with`: nothing may be left. -/
def whole (inner : Scanner α) (text : Text) : Option α :=
  match inner text with
  | some (value, []) => some value
  | _ => none

/-! ## Numbers -/

/-- The text does not go on with a digit. -/
def Stops (radix : Nat) (rest : Text) : Prop :=
  ∀ char ∈ rest.head?, toDigit radix char = none

/-- Digits are taken off the front of the text and added to a value and to a
count. -/
def ScansDigits (radix value count : Nat) (text : Text) (result total : Nat)
    (rest : Text) : Prop :=
  ∃ digits, text = digits ++ rest ∧ AllDigits radix digits ∧ Stops radix rest ∧
    digitsValue radix value digits = result ∧ total = count + digits.length

section

variable {limit radix value count result total : Nat} {text tail rest : Text} {head : Char}

theorem stops_nil (radix : Nat) : Stops radix [] := by
  simp [Stops]

theorem stops_cons (notDigit : toDigit radix head = none) (tail : Text) :
    Stops radix (head :: tail) := by
  simp [Stops, notDigit]

/-- Digits and where they stop are determined by the text. -/
theorem digits_unique {digits others more : Text} (all : AllDigits radix digits)
    (allToo : AllDigits radix others) (stops : Stops radix rest) (stopsToo : Stops radix more)
    (same : digits ++ rest = others ++ more) : digits = others ∧ rest = more := by
  induction digits generalizing others with
  | nil =>
      cases others with
      | nil => exact ⟨rfl, same⟩
      | cons head others =>
          have found := allToo head List.mem_cons_self
          rw [List.nil_append] at same
          rw [stops head (by rw [same]; rfl)] at found
          cases found
  | cons head digits ih =>
      cases others with
      | nil =>
          have found := all head List.mem_cons_self
          rw [List.nil_append] at same
          rw [stopsToo head (by rw [← same]; rfl)] at found
          cases found
      | cons other others =>
          rw [List.cons_append, List.cons_append, List.cons.injEq] at same
          obtain ⟨rfl, sameTail⟩ := same
          obtain ⟨rfl, sameRest⟩ := ih (fun char member => all char (List.mem_cons_of_mem _ member))
            (fun char member => allToo char (List.mem_cons_of_mem _ member)) sameTail
          exact ⟨rfl, sameRest⟩

theorem scansDigits_of_stops (stops : Stops radix text) :
    ScansDigits radix value count text result total rest ↔
      value = result ∧ count = total ∧ text = rest := by
  constructor
  · rintro ⟨digits, split, all, stopsThen, rfl, rfl⟩
    have none : AllDigits radix [] := nofun
    obtain ⟨rfl, rfl⟩ := digits_unique none all stops stopsThen split
    exact ⟨rfl, rfl, rfl⟩
  · rintro ⟨rfl, rfl, rfl⟩
    exact ⟨[], rfl, nofun, stops, rfl, rfl⟩

theorem scansDigits_digit {digit : Nat} (found : toDigit radix head = some digit) :
    ScansDigits radix value count (head :: tail) result total rest ↔
      ScansDigits radix (value * radix + digit) (count + 1) tail result total rest := by
  constructor
  · rintro ⟨digits, split, all, stops, rfl, rfl⟩
    cases digits with
    | nil =>
        rw [List.nil_append] at split
        rw [stops head (by rw [← split]; rfl)] at found
        cases found
    | cons first digits =>
        rw [List.cons_append, List.cons.injEq] at split
        obtain ⟨rfl, rfl⟩ := split
        refine ⟨digits, rfl, fun char member => all char (List.mem_cons_of_mem _ member), stops,
          ?_, ?_⟩
        · simp [digitsValue, found]
        · rw [List.length_cons]
          omega
  · rintro ⟨digits, rfl, all, stops, rfl, rfl⟩
    refine ⟨head :: digits, rfl, ?_, stops, ?_, ?_⟩
    · intro char member
      rcases List.mem_cons.mp member with rfl | later
      · rw [found]
        rfl
      · exact all char later
    · simp [digitsValue, found]
    · rw [List.length_cons]
      omega

theorem boundedDigits_eq_some_iff {maxDigits : Nat} (few : count ≤ maxDigits) :
    boundedDigits radix maxDigits value count text = some (result, total, rest) ↔
      ScansDigits radix value count text result total rest ∧ total ≤ maxDigits := by
  induction text generalizing value count with
  | nil =>
      rw [boundedDigits, scansDigits_of_stops (stops_nil radix)]
      simp only [Option.some.injEq, Prod.mk.injEq]
      constructor
      · rintro ⟨rfl, rfl, rfl⟩
        exact ⟨⟨rfl, rfl, rfl⟩, few⟩
      · exact And.left
  | cons head tail ih =>
      cases found : toDigit radix head with
      | none =>
          rw [scansDigits_of_stops (stops_cons found tail), boundedDigits, found]
          simp only [Option.some.injEq, Prod.mk.injEq]
          constructor
          · rintro ⟨rfl, rfl, rfl⟩
            exact ⟨⟨rfl, rfl, rfl⟩, few⟩
          · exact And.left
      | some digit =>
          rw [scansDigits_digit found, boundedDigits, found]
          dsimp only
          by_cases many : maxDigits < count + 1
          · rw [if_pos many]
            refine iff_of_false nofun ?_
            rintro ⟨⟨digits, _, _, _, _, rfl⟩, short⟩
            omega
          · rw [if_neg many]
            exact ih (by omega)

theorem checkedDigits_eq_some_iff (positive : 0 < radix) (small : value < limit) :
    checkedDigits limit radix value count text = some (result, total, rest) ↔
      ScansDigits radix value count text result total rest ∧ result < limit := by
  induction text generalizing value count with
  | nil =>
      rw [checkedDigits, scansDigits_of_stops (stops_nil radix)]
      simp only [Option.some.injEq, Prod.mk.injEq]
      constructor
      · rintro ⟨rfl, rfl, rfl⟩
        exact ⟨⟨rfl, rfl, rfl⟩, small⟩
      · exact And.left
  | cons head tail ih =>
      cases found : toDigit radix head with
      | none =>
          rw [scansDigits_of_stops (stops_cons found tail), checkedDigits, found]
          simp only [Option.some.injEq, Prod.mk.injEq]
          constructor
          · rintro ⟨rfl, rfl, rfl⟩
            exact ⟨⟨rfl, rfl, rfl⟩, small⟩
          · exact And.left
      | some digit =>
          rw [scansDigits_digit found, checkedDigits, found]
          dsimp only
          by_cases fits : value * radix + digit < limit
          · rw [if_pos fits]
            exact ih fits
          · rw [if_neg fits]
            refine iff_of_false nofun ?_
            rintro ⟨⟨digits, _, _, _, rfl, _⟩, within⟩
            have grown := le_digitsValue positive (value * radix + digit) digits
            omega

/-- What `read_number` accepts as a numeral. -/
structure Numeral (limit radix : Nat) (maxDigits : Option Nat) (allowZeroPrefix : Bool)
    (digits : Text) (value : Nat) : Prop where
  nonempty : digits ≠ []
  all : AllDigits radix digits
  reads : digitsValue radix 0 digits = value
  fits : value < limit
  short : ∀ most ∈ maxDigits, digits.length ≤ most
  zero : allowZeroPrefix = false → digits.head? = some '0' → digits.length ≤ 1

theorem digitLoop_eq_some_iff {maxDigits : Option Nat} (positive : 0 < radix)
    (limitPositive : 0 < limit) :
    digitLoop limit radix maxDigits text = some (result, total, rest) ↔
      ScansDigits radix 0 0 text result total rest ∧ (∀ most ∈ maxDigits, total ≤ most) ∧
        (maxDigits = none → result < limit) := by
  cases maxDigits with
  | none => simp [digitLoop, checkedDigits_eq_some_iff positive limitPositive]
  | some most => simp [digitLoop, boundedDigits_eq_some_iff (Nat.zero_le most)]

/-- `read_number` takes a numeral that the text does not go on. -/
theorem number_eq_some_iff {maxDigits : Option Nat} {allowZeroPrefix : Bool}
    (positive : 0 < radix) (limitPositive : 0 < limit) :
    number limit radix maxDigits allowZeroPrefix text = some (value, rest) ↔
      ∃ digits, text = digits ++ rest ∧ Stops radix rest ∧
        Numeral limit radix maxDigits allowZeroPrefix digits value := by
  have sameHead {digits : Text} (nonempty : digits ≠ []) :
      (digits ++ rest).head? = digits.head? := by
    cases digits with
    | nil => exact absurd rfl nonempty
    | cons head tail => rfl
  unfold number
  constructor
  · intro taken
    split at taken
    · cases taken
    case h_2 result total left scanned =>
        obtain ⟨⟨digits, rfl, all, stops, reads, counted⟩, short, _⟩ :=
          (digitLoop_eq_some_iff positive limitPositive).mp scanned
        rw [Nat.zero_add] at counted
        split at taken
        · cases taken
        case isFalse some =>
            have nonempty : digits ≠ [] := fun none => some (by rw [counted, none]; rfl)
            split at taken
            · cases taken
            case isFalse noPrefix =>
                split at taken
                case isFalse => cases taken
                case isTrue fits =>
                    cases taken
                    refine ⟨digits, rfl, stops, nonempty, all, reads, fits, ?_, ?_⟩
                    · rw [← counted]
                      exact short
                    · intro strict zero
                      rw [sameHead nonempty] at noPrefix
                      by_contra long
                      exact noPrefix ⟨strict, zero, by omega⟩
  · rintro ⟨digits, rfl, stops, nonempty, all, reads, fits, short, zero⟩
    have scanned := (digitLoop_eq_some_iff positive limitPositive).mpr
      ⟨⟨digits, rfl, all, stops, reads, by omega⟩, short, fun _ => fits⟩
    have some := List.length_pos_iff.mpr nonempty
    rw [scanned]
    dsimp only
    rw [if_neg (by omega), if_neg, if_pos fits]
    rintro ⟨strict, atHead, long⟩
    rw [sameHead nonempty] at atHead
    have one := zero strict atHead
    omega

/-! ## Displayed numbers -/

theorem toDigit_digitChar {digit : Nat} (few : radix ≤ 16) (small : digit < radix) :
    toDigit radix digit.digitChar = some digit := by
  have all : ∀ radix < 17, ∀ digit < radix, toDigit radix digit.digitChar = some digit := by
    decide
  exact all radix (by omega) digit small

theorem digitsValue_concat {digits : Text} {last : Char} {digit : Nat}
    (found : toDigit radix last = some digit) :
    digitsValue radix value (digits ++ [last]) = digitsValue radix value digits * radix + digit := by
  simp [digitsValue, found]

/-- A displayed number is made of digits, has its value, and does not begin with
a zero unless it is zero. -/
theorem toDigits_spec (many : 1 < radix) (few : radix ≤ 16) (number : Nat) :
    AllDigits radix (Nat.toDigits radix number) ∧
      digitsValue radix 0 (Nat.toDigits radix number) = number ∧
      ((Nat.toDigits radix number).head? = some '0' → number = 0) := by
  induction number using Nat.strong_induction_on with
  | _ number ih =>
      by_cases small : number < radix
      · rw [Nat.toDigits_of_lt_base small]
        have found := toDigit_digitChar few small
        refine ⟨?_, ?_, ?_⟩
        · intro char member
          rw [List.mem_singleton.mp member, found]
          rfl
        · simp [digitsValue, found]
        · intro zero
          have isZero : number.digitChar = '0' := by simpa using zero
          have zeroDigit : toDigit radix (Nat.digitChar 0) = some 0 :=
            toDigit_digitChar few (by omega)
          change toDigit radix '0' = some 0 at zeroDigit
          rw [isZero, zeroDigit, Option.some.injEq] at found
          exact found.symm
      · have base : radix ≤ number := Nat.le_of_not_lt small
        have less : number / radix < number := Nat.div_lt_self (by omega) many
        obtain ⟨all, value, zero⟩ := ih (number / radix) less
        have last := toDigit_digitChar few (Nat.mod_lt number (by omega))
        rw [Nat.toDigits_of_base_le many base]
        refine ⟨?_, ?_, ?_⟩
        · intro char member
          rcases List.mem_append.mp member with before | here
          · exact all char before
          · rw [List.mem_singleton.mp here, last]
            rfl
        · rw [digitsValue_concat last, value]
          exact Nat.div_add_mod' number radix
        · intro atHead
          rw [List.head?_append_of_ne_nil _ Nat.toDigits_ne_nil] at atHead
          have none := zero atHead
          have positive : 0 < number / radix := Nat.div_pos base (by omega)
          omega

theorem numeral_toDigits {maxDigits : Option Nat} {allowZeroPrefix : Bool} {number : Nat}
    (many : 1 < radix) (few : radix ≤ 16) (fits : number < limit)
    (short : ∀ most ∈ maxDigits, 0 < most ∧ number < radix ^ most) :
    Numeral limit radix maxDigits allowZeroPrefix (Nat.toDigits radix number) number := by
  obtain ⟨all, value, zero⟩ := toDigits_spec many few number
  refine ⟨Nat.toDigits_ne_nil, all, value, fits, ?_, ?_⟩
  · intro most limited
    obtain ⟨positive, small⟩ := short most limited
    exact (Nat.length_toDigits_le_iff many positive).mpr small
  · intro _ atHead
    rw [zero atHead, Nat.toDigits_zero]
    exact le_rfl

/-- A displayed number is read back. -/
theorem number_toDigits {maxDigits : Option Nat} {allowZeroPrefix : Bool} {number : Nat}
    (many : 1 < radix) (few : radix ≤ 16) (fits : number < limit)
    (short : ∀ most ∈ maxDigits, 0 < most ∧ number < radix ^ most) (stops : Stops radix rest) :
    Scanner.number limit radix maxDigits allowZeroPrefix (Nat.toDigits radix number ++ rest) =
      some (number, rest) :=
  (number_eq_some_iff (by omega) (by omega)).mpr
    ⟨_, rfl, stops, numeral_toDigits many few fits short⟩

theorem digitChar_of_toDigit {char : Char} {digit : Nat} (found : toDigit 10 char = some digit) :
    char = digit.digitChar ∧ digit < 10 := by
  by_cases decimal : '0' ≤ char ∧ char ≤ '9'
  · simp only [toDigit, if_pos decimal] at found
    split at found
    case isTrue small =>
        rw [Option.some.injEq] at found
        have zero : '0'.toNat = 48 := rfl
        have lower : 48 ≤ char.toNat := decimal.1
        have code : char.toNat = 48 + digit := by omega
        have chars : ∀ digit < 10, Char.ofNat (48 + digit) = digit.digitChar := by decide
        rw [← Char.ofNat_toNat char, code]
        exact ⟨chars digit (by omega), by omega⟩
    case isFalse => cases found
  · have large : ¬(if 'a' ≤ char ∧ char ≤ 'z' then char.toNat - 'a'.toNat + 10
        else if 'A' ≤ char ∧ char ≤ 'Z' then char.toNat - 'A'.toNat + 10 else 10) < 10 := by
      split
      · omega
      · split <;> omega
    simp only [toDigit, if_neg decimal, if_neg large] at found
    cases found

/-- Digits without a leading zero are the displayed number. -/
theorem eq_toDigits_of_all {digits : Text} (nonempty : digits ≠ []) (all : AllDigits 10 digits)
    (zero : digits.head? = some '0' → digits.length ≤ 1) :
    digits = Nat.toDigits 10 (digitsValue 10 0 digits) := by
  induction digits using List.reverseRecOn with
  | nil => exact absurd rfl nonempty
  | append_singleton digits last ih =>
      obtain ⟨digit, found⟩ := Option.isSome_iff_exists.mp
        (all last (List.mem_append_right _ List.mem_cons_self))
      obtain ⟨rfl, small⟩ := digitChar_of_toDigit found
      rw [digitsValue_concat found, Nat.mul_comm]
      by_cases alone : digits = []
      · subst alone
        change [digit.digitChar] = Nat.toDigits 10 (10 * 0 + digit)
        rw [Nat.mul_zero, Nat.zero_add, Nat.toDigits_of_lt_base small]
      · have head : (digits ++ [digit.digitChar]).head? = digits.head? :=
          List.head?_append_of_ne_nil _ alone
        have some := List.length_pos_iff.mpr alone
        have notZero : digits.head? ≠ Option.some '0' := by
          intro isZero
          rw [head, List.length_append, List.length_singleton] at zero
          have short := zero isZero
          omega
        have before := ih alone (fun char member => all char (List.mem_append_left _ member))
          fun isZero => absurd isZero notZero
        have positive : 0 < digitsValue 10 0 digits := by
          by_contra none
          have isZero : digitsValue 10 0 digits = 0 := by omega
          rw [isZero, Nat.toDigits_zero] at before
          exact notZero (by rw [before]; rfl)
        rw [← Nat.toDigits_append_toDigits (by decide) positive small, ← before,
          Nat.toDigits_of_lt_base small]

theorem digitsValue_zeros (zeros : Nat) (digits : Text) :
    digitsValue 10 0 (List.replicate zeros '0' ++ digits) = digitsValue 10 0 digits := by
  induction zeros with
  | zero => rfl
  | succ zeros ih =>
      rw [List.replicate_succ, List.cons_append]
      exact ih

/-- Any other digits are the displayed number after some zeros. -/
theorem exists_zeros {digits : Text} (nonempty : digits ≠ []) (all : AllDigits 10 digits) :
    ∃ zeros, digits =
      List.replicate zeros '0' ++ Nat.toDigits 10 (digitsValue 10 0 digits) := by
  induction digits with
  | nil => exact absurd rfl nonempty
  | cons head tail ih =>
      by_cases padded : head = '0' ∧ tail ≠ []
      · obtain ⟨rfl, more⟩ := padded
        obtain ⟨zeros, split⟩ := ih more fun char member =>
          all char (List.mem_cons_of_mem _ member)
        have value : digitsValue 10 0 ('0' :: tail) = digitsValue 10 0 tail := rfl
        refine ⟨zeros + 1, ?_⟩
        rw [value, List.replicate_succ, List.cons_append, ← split]
      · refine ⟨0, eq_toDigits_of_all nonempty all fun isZero => ?_⟩
        have zero : head = '0' := by simpa using isZero
        have alone : tail = [] := by
          by_contra more
          exact padded ⟨zero, more⟩
        rw [alone]
        exact le_rfl

end

end Scanner

end Support
