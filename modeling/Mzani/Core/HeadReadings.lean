import Mzani.Core.RequestFraming
import Mzani.Core.ResponseMessage

/-!
# Two readings of a request head

The head of an accepted request is forwarded byte for byte.  mzani cuts it at
CRLF, trims names and uses the first length field; a recipient may cut it at
every LF and takes names and values as they stand.  The two readings agree on
heads that are strict enough.
-/

namespace Mzani

open Support

/-- The lines of a head, cut at every LF without the CR before it. -/
def lfLines (text : Text) : List Text :=
  (text.splitOnP (· == '\n')).map stripCr

/-- The lines between the start line and the first empty line. -/
def fieldLines (lines : List Text) : List Text :=
  (lines.drop 1).takeWhile (· ≠ [])

/-- Names and values as they stand in the field lines. -/
def rawFields (lines : List Text) : HeaderFields :=
  (fieldLines lines).filterMap (splitOnce ':')

/-- The fields with exactly this name, letter case ignored. -/
def Named (name : Text) (field : Text × Text) : Prop :=
  eqIgnoreAsciiCase field.1 name = true

instance (name : Text) : DecidablePred (Named name) := fun field =>
  inferInstanceAs (Decidable (eqIgnoreAsciiCase field.1 name = true))

/-- A value of decimal digits only. -/
def IsNumeral (value : Text) : Prop :=
  trim value ≠ [] ∧ AllDigits 10 (trim value)

instance : DecidablePred IsNumeral := fun value =>
  inferInstanceAs (Decidable (trim value ≠ [] ∧ AllDigits 10 (trim value)))

def numeralValue (value : Text) : Nat :=
  digitsValue 10 0 (trim value)

/-- Fields that a recipient can read in one way only. -/
structure StrictFields (fields : HeaderFields) : Prop where
  noCoding : ∀ field ∈ fields, ¬Named "transfer-encoding".toList field
  plainNames : ∀ field ∈ fields, ∀ char ∈ field.1, isWhitespace char = false
  numerals : ∀ field ∈ fields, Named "content-length".toList field → IsNumeral field.2

/-- The strict reading of the fields gives this body length. -/
structure FramedAs (fields : HeaderFields) (length : Nat) : Prop
    extends StrictFields fields where
  lengths : ∀ field ∈ fields, Named "content-length".toList field →
    numeralValue field.2 = length
  noLength : (∀ field ∈ fields, ¬Named "content-length".toList field) → length = 0

/-- How mzani frames: the first field whose trimmed name is `content-length`,
a plus sign before the digits allowed. -/
def FirstLength (fields : HeaderFields) (length : Nat) : Prop :=
  match fields.find? (fun field => eqIgnoreAsciiCase (trim field.1) "content-length".toList) with
  | none => length = 0
  | some (_, value) =>
      ∃ digits, (trim value = digits ∨ trim value = '+' :: digits) ∧ digits ≠ [] ∧
        AllDigits 10 digits ∧ digitsValue 10 0 digits = length ∧ length < usizeLimit

/-! ## From lines to fields -/

def trimField (field : Text × Text) : Text × Text :=
  (trim field.1, trim field.2)

theorem colon_of_isField {line : Text} {field : Text × Text}
    (isField : IsField line field) : ':' ∈ line := by
  obtain ⟨before, after, split, _⟩ := isField
  obtain ⟨rfl, _⟩ := splitOnce_eq_some_iff.mp split
  simp

theorem fields_of_lines {lines : List Text} {fields : HeaderFields}
    (matching : List.Forall₂ IsField lines fields) :
    fields = (lines.filterMap (splitOnce ':')).map trimField := by
  induction matching with
  | nil => rfl
  | cons isField _ induction =>
      obtain ⟨before, after, split, rfl⟩ := isField
      rw [List.filterMap_cons_some split, List.map_cons, ← induction]
      rfl

theorem colon_of_lines {lines : List Text} {fields : HeaderFields}
    (matching : List.Forall₂ IsField lines fields) : ∀ line ∈ lines, ':' ∈ line := by
  induction matching with
  | nil => simp
  | cons isField _ induction =>
      intro line member
      rcases List.mem_cons.mp member with rfl | later
      · exact colon_of_isField isField
      · exact induction line later

theorem firstLength_of_contentLength {fields : HeaderFields} {length : Nat}
    (parsed : contentLength (fields.map trimField) = .ok length) :
    FirstLength fields length := by
  have found : headerField (fields.map trimField) "content-length".toList =
      (fields.find? fun field =>
        eqIgnoreAsciiCase (trim field.1) "content-length".toList).map
          fun field => trim field.2 := by
    rw [headerField, List.find?_map, Option.map_map]
    rfl
  rw [contentLength_eq_ok_iff, found] at parsed
  unfold FirstLength
  cases first : fields.find? fun field =>
      eqIgnoreAsciiCase (trim field.1) "content-length".toList with
  | none =>
      rw [first] at parsed
      rcases parsed with ⟨_, rfl⟩ | ⟨value, impossible, _⟩
      · rfl
      · cases impossible
  | some field =>
      rw [first] at parsed
      rcases parsed with ⟨impossible, _⟩ | ⟨value, same, number⟩
      · cases impossible
      · obtain rfl : trim field.2 = value := Option.some.inj same
        exact fromStrRadix_some (by decide) (by decide) number

/-- On strict fields with one value for all lengths, the first length is the
length. -/
theorem framedAs_of_firstLength {fields : HeaderFields} {length : Nat}
    (strict : StrictFields fields)
    (agree : ∀ field ∈ fields, Named "content-length".toList field →
      ∀ other ∈ fields, Named "content-length".toList other →
        numeralValue field.2 = numeralValue other.2)
    (first : FirstLength fields length) : FramedAs fields length := by
  have trimmedName : ∀ field ∈ fields, trim field.1 = field.1 := fun field member =>
    trimmed_of_visible (strict.plainNames field member)
  unfold FirstLength at first
  cases found : fields.find? fun field =>
      eqIgnoreAsciiCase (trim field.1) "content-length".toList with
  | none =>
      rw [found] at first
      have absent : ∀ field ∈ fields, ¬Named "content-length".toList field := by
        intro field member named
        have missed := List.find?_eq_none.mp found field member
        rw [trimmedName field member] at missed
        exact missed named
      exact { strict with
        lengths := fun field member named => (absent field member named).elim
        noLength := fun _ => first }
  | some field =>
      rw [found] at first
      have member := List.mem_of_find?_eq_some found
      have named : Named "content-length".toList field := by
        have holds := List.find?_some found
        rwa [trimmedName field member] at holds
      have numeral := strict.numerals field member named
      have value : numeralValue field.2 = length := by
        obtain ⟨digits, shape, _, _, value, _⟩ := first
        rcases shape with plain | signed
        · rw [numeralValue, plain, value]
        · -- a sign is not a digit
          have plus := numeral.2 '+' (by simp [signed])
          exact absurd plus (by decide)
      exact { strict with
        lengths := fun other otherMember otherNamed =>
          (agree other otherMember otherNamed field member named).trans value
        noLength := fun absent => (absent field member named).elim }

theorem parseHeaderFields_of_parseHead {rawHead : Bytes} {method : HttpMethod}
    {path : Text} {headers : HeaderFields}
    (parsed : parseHead rawHead = .ok (method, path, headers)) :
    parseHeaderFields rawHead = .ok headers := by
  obtain ⟨_, _, _, _, _, _, _, _, _, fields⟩ := parseHead_eq_ok parsed
  exact fields

namespace Request

/-- Every accepted head: its CRLF lines are fields, its first length field
gives the declared length, and on a strict head, cut alike by both rules, the
other reading gives the same length. -/
theorem fromStream_reading {σ : Type} [ByteStream σ] {limits : Limits} {stream : σ}
    {request : Request} (answer : (fromStream limits stream).1 = .ok request) :
    ∃ text length, fromUtf8 request.rawHead = some text ∧
      contentLength request.headers = .ok length ∧
      (∀ line ∈ fieldLines (splitCrlf text), ':' ∈ line) ∧
      FirstLength (rawFields (splitCrlf text)) length ∧
      (lfLines text = splitCrlf text → StrictFields (rawFields (lfLines text)) →
        (∀ field ∈ rawFields (lfLines text), Named "content-length".toList field →
          ∀ other ∈ rawFields (lfLines text), Named "content-length".toList other →
            numeralValue field.2 = numeralValue other.2) →
          FramedAs (rawFields (lfLines text)) length) := by
  obtain ⟨_, _, length, _, parsedHead, parsedLength, _⟩ := fromStream_ok answer
  have parsedFields := parseHeaderFields_of_parseHead parsedHead
  obtain ⟨text, startLine, lines, decoded, pieces, matching⟩ :=
    parseHeaderFields_eq_ok_iff.mp parsedFields
  have sameLines : fieldLines (splitCrlf text) = lines.takeWhile (· ≠ []) := by
    rw [pieces]
    rfl
  rw [← sameLines] at matching
  have first : FirstLength (rawFields (splitCrlf text)) length := by
    apply firstLength_of_contentLength
    rwa [rawFields, ← fields_of_lines matching]
  refine ⟨text, length, decoded, parsedLength, colon_of_lines matching, first, ?_⟩
  intro sameCut strict agree
  rw [sameCut] at strict agree ⊢
  exact framedAs_of_firstLength strict agree first

/-- A stream that delivers this head and then bytes of zero, one by one. -/
def headStream (head : Text) : List Item :=
  (toUtf8 head ++ List.replicate 7 0).map .byte

def plainHead : Text := "POST / HTTP/1.1\r\nContent-Length: 5\r\n\r\n".toList

def plainRequest : Request where
  method := .post
  path := "/".toList
  headers := [("Content-Length".toList, "5".toList)]
  body := List.replicate 5 0
  rawHead := toUtf8 plainHead

theorem fromStream_reading_plain : FramedAs (rawFields (lfLines plainHead)) 5 := by
  have answer : (fromStream ({} : Limits) (headStream plainHead)).1 = .ok plainRequest := by
    decide +kernel
  obtain ⟨text, length, decoded, parsed, _, _, reading⟩ := fromStream_reading answer
  have plainDecoded : fromUtf8 plainRequest.rawHead = some plainHead := fromUtf8_toUtf8 _
  have plainParsed : contentLength plainRequest.headers = .ok 5 := by decide +kernel
  obtain rfl := Option.some.inj (plainDecoded.symm.trans decoded)
  obtain rfl := Except.ok.inj (plainParsed.symm.trans parsed)
  exact reading (by decide +kernel)
    { noCoding := by decide +kernel, plainNames := by decide +kernel,
      numerals := by decide +kernel } (by decide +kernel)

/-- The head that is forwarded and the declared length. -/
def acceptedHead (head : Text) : MzaniResult (Bytes × MzaniResult Nat) :=
  (fromStream ({} : Limits) (headStream head)).1.map fun request =>
    (request.rawHead, contentLength request.headers)

def codedHead : Text := "POST / HTTP/1.1\r\nTransfer-Encoding: chunked\r\n\r\n".toList

def paddedHead : Text := "POST / HTTP/1.1\r\nContent-Length : 5\r\n\r\n".toList

def signedHead : Text := "POST / HTTP/1.1\r\nContent-Length: +5\r\n\r\n".toList

def repeatedHead : Text :=
  "POST / HTTP/1.1\r\nContent-Length: 5\r\nContent-Length: 7\r\n\r\n".toList

def bareLfHead : Text := "POST / HTTP/1.1\r\nX: a\nContent-Length: 7\r\n\r\n".toList

/-- Accepted heads that another recipient can frame otherwise, one for each
way the two readings drift apart. -/
theorem accepted_not_framedAs :
    (acceptedHead codedHead = .ok (toUtf8 codedHead, .ok 0) ∧
        ¬FramedAs (rawFields (lfLines codedHead)) 0) ∧
      (acceptedHead paddedHead = .ok (toUtf8 paddedHead, .ok 5) ∧
        ¬FramedAs (rawFields (lfLines paddedHead)) 5) ∧
      (acceptedHead signedHead = .ok (toUtf8 signedHead, .ok 5) ∧
        ¬FramedAs (rawFields (lfLines signedHead)) 5) ∧
      (acceptedHead repeatedHead = .ok (toUtf8 repeatedHead, .ok 5) ∧
        ¬FramedAs (rawFields (lfLines repeatedHead)) 5) ∧
      (acceptedHead bareLfHead = .ok (toUtf8 bareLfHead, .ok 0) ∧
        ¬FramedAs (rawFields (lfLines bareLfHead)) 0) := by
  have coded : ¬∀ field ∈ rawFields (lfLines codedHead),
      ¬Named "transfer-encoding".toList field := by decide +kernel
  have padded : ¬∀ field ∈ rawFields (lfLines paddedHead), ∀ char ∈ field.1,
      isWhitespace char = false := by decide +kernel
  have signed : ¬∀ field ∈ rawFields (lfLines signedHead),
      Named "content-length".toList field → IsNumeral field.2 := by decide +kernel
  have repeated : ¬∀ field ∈ rawFields (lfLines repeatedHead),
      Named "content-length".toList field → numeralValue field.2 = 5 := by decide +kernel
  have hidden : ¬∀ field ∈ rawFields (lfLines bareLfHead),
      Named "content-length".toList field → numeralValue field.2 = 0 := by decide +kernel
  refine ⟨⟨?_, fun framed => coded framed.noCoding⟩,
    ⟨?_, fun framed => padded framed.plainNames⟩,
    ⟨?_, fun framed => signed framed.numerals⟩,
    ⟨?_, fun framed => repeated framed.lengths⟩,
    ⟨?_, fun framed => hidden framed.lengths⟩⟩
  all_goals decide +kernel

end Request

end Mzani
