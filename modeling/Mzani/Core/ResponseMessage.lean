import Mzani.Core.ChunkedCoding

/-!
# Responses as a backend sends them

The sender's side of the response reader: a status line, field lines with
optional whitespace, and a body in one of three framings.
-/

namespace Mzani

open Support

/-! ## Framing fields -/

theorem eqIgnoreAsciiCase_congr {left right : Text}
    (same : eqIgnoreAsciiCase left right = true) (other : Text) :
    eqIgnoreAsciiCase left other = eqIgnoreAsciiCase right other := by
  simp only [eqIgnoreAsciiCase, beq_iff_eq] at same ⊢
  rw [same]

theorem isFramingName_congr {left right : Text}
    (same : eqIgnoreAsciiCase left right = true) :
    isFramingName left = isFramingName right := by
  simp only [isFramingName, eqIgnoreAsciiCase_congr same]

theorem isFramingName_transferEncoding :
    isFramingName "transfer-encoding".toList = true := by decide

theorem isFramingName_contentLength :
    isFramingName "content-length".toList = true := by decide

/-- The fields that forwarding replaces. -/
def framingFields (fields : HeaderFields) : HeaderFields :=
  fields.filter fun field => isFramingName field.1

/-- The fields that forwarding keeps. -/
def otherFields (fields : HeaderFields) : HeaderFields :=
  fields.filter fun field => !isFramingName field.1

/-- Framing fields are found among the framing fields. -/
theorem headerField_framingFields {name : Text} (framing : isFramingName name = true)
    (fields : HeaderFields) :
    headerField (framingFields fields) name = headerField fields name := by
  unfold headerField framingFields
  rw [List.find?_filter]
  congr 2
  funext field
  cases same : eqIgnoreAsciiCase field.1 name with
  | false => simp
  | true => simp [isFramingName_congr same, framing]

/-! ## The mode of a body -/

/-- The reader's test for the chunked coding. -/
def FirstIsChunked (fields : HeaderFields) : Prop :=
  (headerField fields "transfer-encoding".toList).any
    (eqIgnoreAsciiCase · "chunked".toList) = true

theorem firstIsChunked_of_headerField {fields : HeaderFields} {coding : Text}
    (found : headerField fields "transfer-encoding".toList = some coding)
    (isChunked : eqIgnoreAsciiCase coding "chunked".toList = true) :
    FirstIsChunked fields := by
  rw [FirstIsChunked, found]
  exact isChunked

theorem not_firstIsChunked_of_none {fields : HeaderFields}
    (none : headerField fields "transfer-encoding".toList = none) :
    ¬FirstIsChunked fields := by
  rw [FirstIsChunked, none]
  simp

theorem bodyMode_bodyless {status : Nat} (noBody : hasNoBody status = true)
    (fields : HeaderFields) : bodyMode fields status = .ok (.fixed 0) := by
  rw [bodyMode, if_pos noBody]

section

variable {fields : HeaderFields} {status : Nat} (hasBody : hasNoBody status = false)

include hasBody

theorem bodyMode_chunked (first : FirstIsChunked fields) :
    bodyMode fields status = .ok .chunked := by
  have taken : (headerField fields "transfer-encoding".toList).any
      (eqIgnoreAsciiCase · "chunked".toList) = true := first
  simp only [bodyMode, hasBody, taken, Bool.false_eq_true, if_false, if_true]

theorem bodyMode_length (other : ¬FirstIsChunked fields) :
    bodyMode fields status =
      match headerField fields "content-length".toList with
      | none => .ok .untilEof
      | some value =>
          match parseUnsigned usizeLimit value with
          | some length => .ok (.fixed length)
          | none => .error (parseErr "invalid content-length in response") := by
  have passed : (headerField fields "transfer-encoding".toList).any
      (eqIgnoreAsciiCase · "chunked".toList) = false := Bool.eq_false_iff.mpr other
  simp only [bodyMode, hasBody, passed, Bool.false_eq_true, if_false]
  cases headerField fields "content-length".toList with
  | none => rfl
  | some value => rfl

theorem bodyMode_fixed {value : Text} {length : Nat} (other : ¬FirstIsChunked fields)
    (found : headerField fields "content-length".toList = some value)
    (parsed : parseUnsigned usizeLimit value = some length) :
    bodyMode fields status = .ok (.fixed length) := by
  rw [bodyMode_length hasBody other, found]
  simp only [parsed]

theorem bodyMode_untilEof (other : ¬FirstIsChunked fields)
    (none : headerField fields "content-length".toList = none) :
    bodyMode fields status = .ok .untilEof := by
  rw [bodyMode_length hasBody other, none]

end

/-! ## Heads -/

/-- A header field line, with optional whitespace around the value. -/
structure FieldLine where
  name : Text
  before : Text
  value : Text
  after : Text
  nameNonempty : name ≠ []
  nameColonFree : ':' ∉ name
  nameTrimmed : Trimmed name
  valueTrimmed : Trimmed value
  lineEndFree : ∀ char ∈ name ++ value, char ≠ '\r' ∧ char ≠ '\n'
  blank : ∀ char ∈ before ++ after, IsBlank char

namespace FieldLine

def line (field : FieldLine) : Text :=
  field.name ++ ':' :: (field.before ++ field.value ++ field.after)

def field (field : FieldLine) : Text × Text :=
  (field.name, field.value)

theorem isField (field : FieldLine) : IsField field.line field.field :=
  isField_padded field.nameColonFree field.nameTrimmed field.valueTrimmed
    (fun char member => field.blank char (List.mem_append_left _ member))
    (fun char member => field.blank char (List.mem_append_right _ member))

theorem headLine (field : FieldLine) : HeadLine field.line := by
  refine ⟨by simp [line], fun occurs => ?_⟩
  have inLine : '\r' ∈ field.line := occurs.subset (by simp)
  have notInText : ∀ char ∈ field.name ++ field.value, '\r' ≠ char :=
    fun char member same => (field.lineEndFree char member).1 same.symm
  have notBlank : ∀ char ∈ field.before ++ field.after, '\r' ≠ char := by
    rintro char member rfl
    exact absurd (field.blank '\r' member) (by decide)
  simp only [line, List.mem_append, List.mem_cons] at inLine notInText notBlank
  rcases inLine with inName | isColon | (inBefore | inValue) | inAfter
  · exact notInText '\r' (Or.inl inName) rfl
  · exact absurd isColon (by decide)
  · exact notBlank '\r' (Or.inl inBefore) rfl
  · exact notInText '\r' (Or.inr inValue) rfl
  · exact notBlank '\r' (Or.inr inAfter) rfl

/-- The field line `name: value`. -/
def plain (name value : Text) (nameNonempty : name ≠ []) (nameColonFree : ':' ∉ name)
    (nameTrimmed : Trimmed name) (valueTrimmed : Trimmed value)
    (lineEndFree : ∀ char ∈ name ++ value, char ≠ '\r' ∧ char ≠ '\n') : FieldLine where
  name := name
  before := [' ']
  value := value
  after := []
  nameNonempty := nameNonempty
  nameColonFree := nameColonFree
  nameTrimmed := nameTrimmed
  valueTrimmed := valueTrimmed
  lineEndFree := lineEndFree
  blank := by decide

end FieldLine

/-- The head of a response whose length a machine can count. -/
structure ResponseHead where
  statusLine : Text
  status : Nat
  lines : List FieldLine
  lineEndFree : ∀ char ∈ statusLine, char ≠ '\r' ∧ char ≠ '\n'
  hasStatus : HasStatus statusLine status
  countable :
    (encodeHead (statusLine :: lines.map FieldLine.line)).length ≤ usizeLimit

namespace ResponseHead

def encode (head : ResponseHead) : Bytes :=
  encodeHead (head.statusLine :: head.lines.map FieldLine.line)

def fields (head : ResponseHead) : HeaderFields :=
  head.lines.map FieldLine.field

theorem headLine_statusLine (head : ResponseHead) : HeadLine head.statusLine := by
  refine ⟨head.hasStatus.ne_nil, fun occurs => ?_⟩
  exact (head.lineEndFree '\r' (occurs.subset (by simp))).1 rfl

theorem newlineFree (head : ResponseHead) : '\n' ∉ head.statusLine :=
  fun member => (head.lineEndFree '\n' member).2 rfl

theorem headLines (head : ResponseHead) :
    ∀ line ∈ head.statusLine :: head.lines.map FieldLine.line, HeadLine line := by
  intro line member
  rcases List.mem_cons.mp member with rfl | inFields
  · exact head.headLine_statusLine
  · obtain ⟨field, _, rfl⟩ := List.mem_map.mp inFields
    exact field.headLine

theorem isHead (head : ResponseHead) : IsHead head.encode :=
  isHead_encodeHead (by simp) head.headLines

theorem parseHeaderFields (head : ResponseHead) :
    parseHeaderFields head.encode = .ok head.fields := by
  rw [encode, parseHeaderFields_encodeHead head.headLines, fields,
    List.forall₂_map_left_iff, List.forall₂_map_right_iff, List.forall₂_same]
  exact fun field _ => field.isField

theorem parseStatusCode (head : ResponseHead) :
    parseStatusCode head.encode = .ok head.status :=
  parseStatusCode_encodeHead _ head.newlineFree head.hasStatus

end ResponseHead

/-! ## Reading a response whose head is known -/

section

variable {σ : Type} [ByteStream σ]

/-- A scan that succeeds on a stream that starts with a head finds this head. -/
theorem readHeaderBlock_head {maxHeaderBytes : Nat} {head found bodyPrefix : Bytes}
    {tail : List Item} {stream rest : σ} (isHead : IsHead head)
    (content : ByteStream.items stream = head.map .byte ++ tail)
    (answer : readHeaderBlock maxHeaderBytes stream = (.ok (found, bodyPrefix), rest)) :
    found = head ∧ tail = bodyPrefix.map .byte ++ ByteStream.items rest := by
  obtain ⟨split, foundIsHead, _⟩ := readHeaderBlock_ok answer
  rw [content, List.map_append, List.append_assoc] at split
  obtain ⟨rfl, rfl⟩ := isHead.unique_content foundIsHead split
  exact ⟨rfl, rfl⟩

/-- The body reader runs on a stream that holds what follows the head. -/
theorem readHttpResponse_of_head {limits : Limits} {head : Bytes}
    {fields : HeaderFields} {status : Nat} {mode : BodyMode} {tail : List Item}
    {stream : σ} (isHead : IsHead head)
    (fits : head.length ≤ limits.maxHeaderBytes + 1)
    (parsedFields : parseHeaderFields head = .ok fields)
    (parsedStatus : parseStatusCode head = .ok status)
    (hasMode : bodyMode fields status = .ok mode)
    (content : ByteStream.items stream = head.map .byte ++ tail) :
    ∃ reader : PrefixReader σ, ByteStream.items reader = tail ∧
      (readHttpResponse limits stream).1 =
        (readBody mode limits.maxResponseBytes reader).1.bind
          (encodeForwardedResponse head status fields) := by
  obtain ⟨bodyPrefix, rest, scanned, split⟩ :=
    readHeaderBlock_finds isHead fits content
  refine ⟨PrefixReader.new bodyPrefix rest, by simp [split], ?_⟩
  rw [readHttpResponse, Reading.bind_of_ok scanned]
  simp only [parsedFields, parsedStatus, hasMode, Reading.ofExcept_ok_bind]
  cases answer : readBody mode limits.maxResponseBytes
      (PrefixReader.new bodyPrefix rest) with
  | mk outcome reader =>
      have borrowed : withPrefix bodyPrefix (readBody mode limits.maxResponseBytes)
          rest = (outcome, reader.inner) := by
        simp [withPrefix, answer]
      cases outcome with
      | error error => rw [Reading.bind_of_error borrowed]; rfl
      | ok body => rw [Reading.bind_of_ok borrowed]; rfl

/-- A head that frames no body is refused. -/
theorem readHttpResponse_unframed {limits : Limits} {head : Bytes} {fields : HeaderFields}
    {status : Nat} {error : MzaniError} {tail : List Item} {stream : σ} (isHead : IsHead head)
    (fits : head.length ≤ limits.maxHeaderBytes + 1)
    (parsedFields : parseHeaderFields head = .ok fields)
    (parsedStatus : parseStatusCode head = .ok status)
    (noMode : bodyMode fields status = .error error)
    (content : ByteStream.items stream = head.map .byte ++ tail) :
    (readHttpResponse limits stream).1 = .error error := by
  obtain ⟨bodyPrefix, rest, scanned, _⟩ := readHeaderBlock_finds isHead fits content
  rw [readHttpResponse, Reading.bind_of_ok scanned]
  simp only [parsedFields, parsedStatus, noMode, Reading.ofExcept_ok_bind]
  rfl

end

/-- The steps of a successful run. -/
theorem readHttpResponse_ok {σ : Type} [Read σ] {limits : Limits} {stream : σ} {out : Bytes}
    (answer : (readHttpResponse limits stream).1 = .ok out) :
    ∃ head bodyPrefix rest fields status mode body,
      readHeaderBlock limits.maxHeaderBytes stream = (.ok (head, bodyPrefix), rest) ∧
        parseHeaderFields head = .ok fields ∧ parseStatusCode head = .ok status ∧
        bodyMode fields status = .ok mode ∧
        (readBody mode limits.maxResponseBytes
          (PrefixReader.new bodyPrefix rest)).1 = .ok body ∧
        encodeForwardedResponse head status fields body = .ok out := by
  have run : readHttpResponse limits stream =
      (.ok out, (readHttpResponse limits stream).2) := Prod.ext answer rfl
  rw [readHttpResponse] at run
  obtain ⟨⟨head, bodyPrefix⟩, rest, scanned, afterScan⟩ := Reading.bind_eq_ok_iff.mp run
  obtain ⟨fields, _, fieldsRead, afterFields⟩ := Reading.bind_eq_ok_iff.mp afterScan
  obtain ⟨status, _, statusRead, afterStatus⟩ := Reading.bind_eq_ok_iff.mp afterFields
  obtain ⟨mode, _, modeChosen, afterMode⟩ := Reading.bind_eq_ok_iff.mp afterStatus
  obtain ⟨body, _, borrowed, encoded⟩ := Reading.bind_eq_ok_iff.mp afterMode
  obtain ⟨parsedFields, rfl⟩ := Prod.mk.inj fieldsRead
  obtain ⟨parsedStatus, rfl⟩ := Prod.mk.inj statusRead
  obtain ⟨hasMode, rfl⟩ := Prod.mk.inj modeChosen
  exact ⟨head, bodyPrefix, _, fields, status, mode, body, scanned, parsedFields,
    parsedStatus, hasMode, congrArg Prod.fst borrowed, (Prod.mk.inj encoded).1⟩

end Mzani
