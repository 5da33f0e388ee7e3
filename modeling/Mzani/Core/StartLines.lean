import Mzani.Core.AcceptedResponses

/-!
# Start lines

The status line is cut off a response head at its first line feed, the header
lines at its first CRLF.  Nothing is lost in between exactly if the first line
feed follows a carriage return.
-/

namespace Mzani

open Support

/-- What follows the first line feed. -/
def afterFirstLine (text : Text) : Text :=
  match splitOnce '\n' text with
  | some (_, rest) => rest
  | none => []

/-- The header lines of a head, from its first line feed on. -/
def headerLines (text : Text) : List Text :=
  (splitCrlf (afterFirstLine text)).takeWhile (· ≠ [])

/-- The first line feed follows a carriage return. -/
def CrlfFirst (text : Text) : Prop :=
  ∃ line rest, text = line ++ '\r' :: '\n' :: rest ∧ '\n' ∉ line

section

variable {text line rest : Text}

theorem splitCrlf_crlf (free : '\n' ∉ line) (rest : Text) :
    splitCrlf (line ++ '\r' :: '\n' :: rest) = line :: splitCrlf rest := by
  have noCrlf : ¬crlf <:+: line := fun occurs => free (occurs.subset (by simp))
  rw [splitCrlf, splitPair_append (by decide), splitPair_of_free noCrlf]
  rfl

theorem headerLines_crlf (free : '\n' ∉ line) (rest : Text) :
    headerLines (line ++ '\r' :: '\n' :: rest) = (splitCrlf rest).takeWhile (· ≠ []) := by
  have split : splitOnce '\n' (line ++ '\r' :: '\n' :: rest) = some (line ++ ['\r'], rest) := by
    rw [splitOnce_eq_some_iff]
    constructor
    · simp
    · simp [free]
  rw [headerLines, afterFirstLine, split]

/-- A line is read as one field. -/
theorem IsField.unique {first second : Text × Text} (isFirst : IsField line first)
    (isSecond : IsField line second) : first = second := by
  obtain ⟨before, after, split, rfl⟩ := isFirst
  obtain ⟨other, later, again, rfl⟩ := isSecond
  rw [split] at again
  cases again
  rfl

/-- The field of a line is among those that are read. -/
theorem mem_of_isField {lines : List Text} {fields : HeaderFields} {field : Text × Text}
    (read : List.Forall₂ IsField lines fields) (member : line ∈ lines)
    (isField : IsField line field) : field ∈ fields := by
  induction read with
  | nil => cases member
  | @cons first found lines fields isFirst _ ih =>
      rcases List.mem_cons.mp member with rfl | later
      · rw [isField.unique isFirst]
        exact List.mem_cons_self
      · exact List.mem_cons_of_mem found (ih later)

/-- Both cuts are one if the first line feed follows a carriage return, and
only then. -/
theorem crlfFirst_iff (occurs : crlf <:+: text) :
    CrlfFirst text ↔ (splitCrlf text).head? = firstLine text := by
  constructor
  · rintro ⟨line, rest, rfl, free⟩
    rw [splitCrlf_crlf free, firstLine_crlf rest free]
    rfl
  · intro same
    have joined := joinPair_splitPair '\r' '\n' text
    change joinPair '\r' '\n' (splitCrlf text) = text at joined
    cases pieces : splitCrlf text with
    | nil => exact absurd pieces (splitPair_ne_nil _ _ _)
    | cons line others =>
        rw [pieces, List.head?_cons] at same
        rw [pieces] at joined
        have free : '\n' ∉ line := firstLine_free same.symm
        cases others with
        | nil =>
            have whole : line = text := by simpa [joinPair, List.intercalate] using joined
            rw [whole] at free
            exact absurd (occurs.subset (by simp)) free
        | cons next others =>
            rw [joinPair_cons_cons] at joined
            exact ⟨line, _, joined.symm, free⟩

end

namespace AcceptedResponse

variable {σ : Type} [Read σ] {limits : Limits} {stream : σ}

/-- Both parsers cut the head at the same place, every header line that frames
nothing is sent on, and every one that frames the body is seen. -/
structure SameCut (response : AcceptedResponse limits stream) : Prop where
  startLine : (splitCrlf response.text).head? = firstLine response.text
  forwarded : ∀ line ∈ headerLines response.text, ∀ field, IsField line field →
    isFramingName field.1 = false →
      (if hasNoBody response.status = true then line else formatField field) ∈
        splitCrlf response.sentHead
  framing : ∀ line ∈ headerLines response.text, ∀ field, IsField line field →
    isFramingName field.1 = true → field ∈ response.fields

/-- The header lines are the fields, if they are cut at the same place. -/
theorem isField_headerLines (response : AcceptedResponse limits stream)
    (first : CrlfFirst response.text) :
    List.Forall₂ IsField (headerLines response.text) response.fields := by
  obtain ⟨head, startLine, lines, decoded, pieces, fields⟩ :=
    parseHeaderFields_eq_ok_iff.mp response.parsedFields
  rw [response.fromUtf8_rawHead, Option.some.injEq] at decoded
  subst decoded
  obtain ⟨line, rest, split, free⟩ := first
  rw [split, splitCrlf_crlf free] at pieces
  rw [split, headerLines_crlf free, (List.cons.inj pieces).2]
  exact fields

theorem sent_of_isField (response : AcceptedResponse limits stream)
    (first : CrlfFirst response.text) {line : Text} {field : Text × Text}
    (member : line ∈ headerLines response.text) (isField : IsField line field)
    (other : isFramingName field.1 = false) :
    (if hasNoBody response.status = true then line else formatField field) ∈
      splitCrlf response.sentHead := by
  have inFields := mem_of_isField (response.isField_headerLines first) member isField
  unfold sentHead
  split
  case isTrue =>
      obtain ⟨start, rest, split, free⟩ := first
      rw [split, headerLines_crlf free] at member
      rw [split, splitCrlf_crlf free]
      exact List.mem_cons_of_mem start (List.takeWhile_subset _ member)
  case isFalse =>
      have kept : formatField field ∈ (otherFields response.fields).map formatField := by
        apply List.mem_map_of_mem
        exact List.mem_filter.mpr ⟨inFields, by simpa using other⟩
      have lines : response.sentLines = response.statusLine ::
          (otherFields response.fields ++ [lengthField response.body.length]).map
            formatField := by
        rw [sentLines, List.map_append]
        rfl
      have headLines := forwardedHead_headLines response.newlineFree response.hasStatus
        (readField_of_parseHeaderFields response.parsedFields) response.body.length
      rw [← lines] at headLines
      rw [splitCrlf_encodeHead (by simp [sentLines]) headLines, sentLines]
      apply List.mem_append_left
      exact List.mem_cons_of_mem _ (List.mem_append_left _ kept)

theorem sameCut_iff (response : AcceptedResponse limits stream) :
    response.SameCut ↔ CrlfFirst response.text := by
  have occurs : crlf <:+: response.text :=
    (List.prefix_append crlf crlf).isInfix.trans response.crlf_isInfix_text
  constructor
  · intro same
    exact (crlfFirst_iff occurs).mpr same.startLine
  · intro first
    have read := response.isField_headerLines first
    constructor
    · exact (crlfFirst_iff occurs).mp first
    · intro line member field isField other
      exact response.sent_of_isField first member isField other
    · intro line member field isField _
      exact mem_of_isField read member isField

/-- A field that is lost between the two cuts. -/
def bareHead : Bytes :=
  toUtf8 "HTTP/1.1 200 OK\nContent-Length: 2\r\nServer: x\r\n\r\n".toList

def bareStream : Source := [.ok ⟨bareHead ++ toUtf8 "hello".toList, by decide⟩]

def bareResponse : AcceptedResponse {} bareStream where
  rawHead := bareHead
  bodyPrefix := toUtf8 "hello".toList
  rest := (readHeaderBlock (({} : Limits).maxHeaderBytes) bareStream).2
  fields := [("Server".toList, "x".toList)]
  status := 200
  mode := .untilEof
  body := toUtf8 "hello".toList
  scanned := Prod.ext (by decide +kernel) rfl
  parsedFields := by decide +kernel
  parsedStatus := by decide +kernel
  hasMode := by decide +kernel
  bodyRead := by decide +kernel

/-- The length of the body is part of the start line that is skipped, so the
body is read to the end of the stream. -/
theorem bareResponse_cut :
    "Content-Length: 2".toList ∈ headerLines bareResponse.text ∧
      ("Content-Length".toList, "2".toList) ∉ bareResponse.fields ∧
      (readHttpResponse {} bareStream).1 =
        .ok (toUtf8
          "HTTP/1.1 200 OK\r\nServer: x\r\nContent-Length: 5\r\n\r\nhello".toList) ∧
      ¬bareResponse.SameCut := by
  refine ⟨by decide +kernel, by decide +kernel, by decide +kernel, ?_⟩
  intro same
  exact absurd same.startLine (by decide +kernel)

end AcceptedResponse

end Mzani
