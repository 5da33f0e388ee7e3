import Mathlib.Data.List.Infix

/-!
# UTF-8 text

Text is a list of characters; its wire form is the concatenation of the UTF-8
codes of the characters.  Searching the wire form for an ASCII pattern finds
exactly the occurrences of the pattern in the text, because no byte of a
multi-byte code is an ASCII byte.
-/

namespace Support

abbrev Bytes := List UInt8

abbrev Text := List Char

/-- What is asked of the members of a list is decided on the list, not on the
type of its members. -/
instance (priority := 10000) decidableForallMemList {α : Type} (items : List α)
    (p : α → Prop) [DecidablePred p] : Decidable (∀ item ∈ items, p item) :=
  List.decidableBAll p items

instance (priority := 10000) decidableForallMemOption {α : Type} (found : Option α)
    (p : α → Prop) [DecidablePred p] : Decidable (∀ item ∈ found, p item) :=
  Option.decidableForallMem found

/-- The bytes of a text. -/
def toUtf8 (text : Text) : Bytes :=
  text.flatMap String.utf8EncodeChar

/-- Checked conversion of bytes to text. -/
def fromUtf8 (bytes : Bytes) : Option Text :=
  bytes.toByteArray.utf8Decode?.map Array.toList

@[simp] theorem toUtf8_nil : toUtf8 [] = [] := rfl

@[simp] theorem toUtf8_append (left right : Text) :
    toUtf8 (left ++ right) = toUtf8 left ++ toUtf8 right := by
  simp [toUtf8]

theorem toUtf8_cons (head : Char) (tail : Text) :
    toUtf8 (head :: tail) = String.utf8EncodeChar head ++ toUtf8 tail := by
  simp [toUtf8]

private theorem toByteArray_toUtf8 (text : Text) :
    (toUtf8 text).toByteArray = text.utf8Encode := rfl

private theorem toByteArray_injective {left right : Bytes}
    (same : left.toByteArray = right.toByteArray) : left = right := by
  have lists := congrArg (fun array => array.data.toList) same
  simpa using lists

@[simp] theorem fromUtf8_toUtf8 (text : Text) :
    fromUtf8 (toUtf8 text) = some text := by
  simp [fromUtf8, toByteArray_toUtf8, List.utf8Decode?_utf8Encode]

theorem toUtf8_of_fromUtf8 {bytes : Bytes} {text : Text}
    (decoded : fromUtf8 bytes = some text) : toUtf8 text = bytes := by
  simp only [fromUtf8, Option.map_eq_some_iff] at decoded
  obtain ⟨array, arrayDecoded, rfl⟩ := decoded
  have isSome : bytes.toByteArray.utf8Decode?.isSome = true := by
    simp [arrayDecoded]
  have encoded := ByteArray.utf8Encode_get_utf8Decode? (h := isSome)
  simp only [arrayDecoded, Option.get_some] at encoded
  exact toByteArray_injective encoded

theorem toUtf8_injective {left right : Text}
    (same : toUtf8 left = toUtf8 right) : left = right := by
  have decoded : fromUtf8 (toUtf8 left) = fromUtf8 (toUtf8 right) := by
    rw [same]
  simpa using decoded

/-- A text prefix is a wire prefix and conversely. -/
theorem toUtf8_isPrefix_iff {pattern text : Text} :
    toUtf8 pattern <+: toUtf8 text ↔ pattern <+: text := by
  constructor
  · rintro ⟨rest, split⟩
    apply List.isPrefix_of_utf8Encode_append_eq_utf8Encode rest.toByteArray
    rw [← toByteArray_toUtf8, ← toByteArray_toUtf8, ← split]
    simp
  · rintro ⟨rest, rfl⟩
    simp

/-- The characters whose code is one byte. -/
def IsAscii (char : Char) : Prop := char.toNat < 128

instance : DecidablePred IsAscii := fun char =>
  inferInstanceAs (Decidable (char.toNat < 128))

theorem utf8EncodeChar_ascii {char : Char} (ascii : IsAscii char) :
    String.utf8EncodeChar char = [UInt8.ofNat char.toNat] := by
  have small : char.toNat ≤ 127 := Nat.le_of_lt_succ ascii
  simp [String.utf8EncodeChar, small]

theorem toUtf8_ascii_cons {char : Char} (ascii : IsAscii char) (text : Text) :
    toUtf8 (char :: text) = UInt8.ofNat char.toNat :: toUtf8 text := by
  rw [toUtf8_cons, utf8EncodeChar_ascii ascii, List.singleton_append]

/-- Every byte of a multi-byte code lies outside the ASCII range. -/
theorem utf8EncodeChar_not_ascii {char : Char} (wide : ¬IsAscii char) :
    ∀ byte ∈ String.utf8EncodeChar char, 128 ≤ byte.toNat := by
  have large : ¬char.toNat ≤ 127 := fun small => wide (Nat.lt_succ_of_le small)
  intro byte member
  simp only [String.utf8EncodeChar, Char.toNat_val] at member
  rw [if_neg large] at member
  split at member
  · simp only [List.mem_cons, List.not_mem_nil, or_false] at member
    rcases member with rfl | rfl <;> simp [UInt8.toNat_add] <;> omega
  · split at member
    · simp only [List.mem_cons, List.not_mem_nil, or_false] at member
      rcases member with rfl | rfl | rfl <;> simp [UInt8.toNat_add] <;> omega
    · simp only [List.mem_cons, List.not_mem_nil, or_false] at member
      rcases member with rfl | rfl | rfl | rfl <;>
        simp [UInt8.toNat_add] <;> omega

/-- An ASCII pattern occurs in the wire form only where it occurs in the
text: an occurrence cannot start inside a multi-byte code. -/
theorem isInfix_of_toUtf8_isInfix {pattern text : Text}
    (ascii : ∀ char ∈ pattern, IsAscii char)
    (occurs : toUtf8 pattern <:+: toUtf8 text) : pattern <:+: text := by
  induction text with
  | nil =>
      have empty : toUtf8 pattern = toUtf8 [] := by simpa using occurs
      simp [toUtf8_injective empty]
  | cons head tail induction =>
      obtain ⟨before, after, split⟩ := occurs
      rw [toUtf8_cons, List.append_assoc] at split
      rcases List.append_eq_append_iff.mp split with
        ⟨rest, headSplit, restSplit⟩ | ⟨rest, _, restSplit⟩
      · -- the occurrence starts at or inside the code of `head`
        cases before with
        | nil =>
            have isPrefix : toUtf8 pattern <+: toUtf8 (head :: tail) :=
              ⟨after, by rw [toUtf8_cons, ← split, List.nil_append]⟩
            exact (toUtf8_isPrefix_iff.mp isPrefix).isInfix
        | cons first before =>
            cases pattern with
            | nil => exact List.nil_infix
            | cons letter pattern =>
                have letterAscii := ascii letter (by simp)
                rw [toUtf8_ascii_cons letterAscii] at restSplit
                cases rest with
                | nil =>
                    have inTail : toUtf8 (letter :: pattern) <:+: toUtf8 tail :=
                      ⟨[], after, by
                        rw [toUtf8_ascii_cons letterAscii]
                        simpa using restSplit⟩
                    exact (induction inTail).trans
                      (List.suffix_cons head tail).isInfix
                | cons byte rest =>
                    have sameByte : UInt8.ofNat letter.toNat = byte := by
                      simpa using congrArg List.head? restSplit
                    have wide : ¬IsAscii head := by
                      intro headAscii
                      rw [utf8EncodeChar_ascii headAscii] at headSplit
                      simp at headSplit
                    have large := utf8EncodeChar_not_ascii wide byte (by
                      simp [headSplit])
                    have small : (UInt8.ofNat letter.toNat).toNat < 128 := by
                      simp only [IsAscii] at letterAscii
                      simp only [UInt8.toNat_ofNat']
                      omega
                    rw [sameByte] at small
                    omega
      · -- the occurrence lies in the code of `tail`
        exact (induction ⟨rest, after, by
          rw [restSplit, List.append_assoc]⟩).trans
          (List.suffix_cons head tail).isInfix

/-- An ASCII code stands in the wire form only for its character. -/
theorem mem_of_mem_toUtf8 (char : Char) {text : Text} (ascii : IsAscii char)
    (member : UInt8.ofNat char.toNat ∈ toUtf8 text) : char ∈ text := by
  have code : toUtf8 [char] = [UInt8.ofNat char.toNat] := toUtf8_ascii_cons ascii []
  have occurs : toUtf8 [char] <:+: toUtf8 text := by
    rw [code]
    exact (List.singleton_infix_iff _ _).mpr member
  exact (List.singleton_infix_iff _ _).mp
    (isInfix_of_toUtf8_isInfix (by simpa using ascii) occurs)

end Support
