import Mzani.Core.ChunkedGrammar
import Mzani.Core.ResponseTruncation

/-!
# Transfer codings

Forwarding drops every `Transfer-Encoding` field, and decodes a body only if
the whole value of the first one is `chunked`.  So a coding is removed without
its field's meaning being undone wherever the fields say anything else.
-/

namespace Mzani

open Support

/-- A complete head within some header limit. -/
structure ReceivedHead where
  bytes : Bytes
  isHead : IsHead bytes
  countable : bytes.length ≤ usizeLimit

/-- The codings that all `Transfer-Encoding` fields name, in order. -/
def codings (fields : HeaderFields) : List Text :=
  (fieldValues fields "transfer-encoding".toList).flatMap fun value =>
    ((value.splitOnP (· == ',')).map trim).filter (· ≠ [])

/-- Some coding is named, and none but `chunked`. -/
def OnlyChunked (fields : HeaderFields) : Prop :=
  codings fields ≠ [] ∧
    ∀ coding ∈ codings fields, eqIgnoreAsciiCase coding "chunked".toList = true

instance : DecidablePred OnlyChunked := fun fields =>
  inferInstanceAs (Decidable (codings fields ≠ [] ∧
    ∀ coding ∈ codings fields, eqIgnoreAsciiCase coding "chunked".toList = true))

/-- Whatever follows this head, in every split and under all limits: a response
with a body is accepted only without a coding, or with no other coding than
`chunked` and the chunked body decoded. -/
def DecodesCodings (head : ReceivedHead) : Prop :=
  ∀ (σ : Type) [ByteStream σ] (limits : Limits) (stream : σ) (tail : List Item) (out : Bytes)
    (fields : HeaderFields) (status : Nat),
    ByteStream.items stream = head.bytes.map .byte ++ tail →
      (readHttpResponse limits stream).1 = .ok out →
        parseHeaderFields head.bytes = .ok fields → parseStatusCode head.bytes = .ok status →
          hasNoBody status = false →
            fieldValues fields "transfer-encoding".toList = [] ∨
              OnlyChunked fields ∧ ∃ body,
                (readChunkedBody limits.maxResponseBytes tail).1 = .ok body ∧
                  encodeForwardedResponse head.bytes status fields body = .ok out

/-- The head names no coding; or no other than `chunked`, and the first field
says just that; or the response is refused for its length field. -/
def CodingsUnderstood (head : ReceivedHead) : Prop :=
  ∀ fields status, parseHeaderFields head.bytes = .ok fields →
    parseStatusCode head.bytes = .ok status → hasNoBody status = false →
      fieldValues fields "transfer-encoding".toList = [] ∨
        OnlyChunked fields ∧ FirstIsChunked fields ∨
        ¬FirstIsChunked fields ∧ ∃ value,
          headerField fields "content-length".toList = some value ∧
            parseUnsigned usizeLimit value = none

/-! ## Responses that are accepted -/

/-- What was read can be encoded. -/
theorem encodeForwardedResponse_total {head : Bytes} {status : Nat}
    (parsedStatus : parseStatusCode head = .ok status) (fields : HeaderFields)
    (body : Bytes) : ∃ out, encodeForwardedResponse head status fields body = .ok out := by
  obtain ⟨text, statusLine, decoded, first, _⟩ := parseStatusCode_eq_ok_iff.mp parsedStatus
  by_cases noBody : hasNoBody status = true
  · exact ⟨head, by rw [encodeForwardedResponse, if_pos noBody]⟩
  · rw [Bool.not_eq_true] at noBody
    exact ⟨_, (encodeForwardedResponse_of_body noBody).mpr
      ⟨text, statusLine, decoded, first, rfl⟩⟩

/-- If the body reader takes what follows the head, the response is
accepted. -/
theorem readHttpResponse_accepted {head : ReceivedHead} {fields : HeaderFields}
    {status : Nat} {mode : BodyMode} {tail : List Item} {body : Bytes}
    (parsedFields : parseHeaderFields head.bytes = .ok fields)
    (parsedStatus : parseStatusCode head.bytes = .ok status)
    (hasMode : bodyMode fields status = .ok mode)
    (taken : ∀ reader : PrefixReader (List Item), ByteStream.items reader = tail →
      (readBody mode Limits.largest.maxResponseBytes reader).1 = .ok body) :
    ∃ out, (readHttpResponse Limits.largest (head.bytes.map .byte ++ tail)).1 = .ok out := by
  have fits : head.bytes.length ≤ Limits.largest.maxHeaderBytes + 1 := head.countable
  have content : ByteStream.items (head.bytes.map Item.byte ++ tail) =
      head.bytes.map .byte ++ tail := rfl
  obtain ⟨reader, readerContent, answer⟩ := readHttpResponse_of_head head.isHead fits
    parsedFields parsedStatus hasMode content
  obtain ⟨out, encoded⟩ := encodeForwardedResponse_total parsedStatus fields body
  rw [taken reader readerContent] at answer
  exact ⟨out, answer.trans encoded⟩

/-- Bytes of zero are no chunked body. -/
theorem zeros_not_chunked (maxBytes count : Nat) (body : Bytes) :
    (readChunkedBody maxBytes ((List.replicate count 0).map Item.byte)).1 ≠ .ok body := by
  intro accepted
  obtain ⟨_, after, starts, _⟩ := (readChunkedBody_eq_ok_iff _).mp accepted
  have carriageReturn : Item.byte 13 ∈ uninterrupted ((List.replicate count 0).map Item.byte) := by
    rcases starts.first_line with ⟨line, _, _, _, whole⟩ | ⟨line, _, _, _, _, _, _, _, _, whole⟩
    all_goals
      rw [items_content] at whole
      rw [whole]
      simp [chunkHeaderEnd]
  have inZeros := List.mem_of_mem_filter carriageReturn
  simp at inZeros

/-- An empty chunked body is accepted. -/
theorem readBody_lastChunk (reader : PrefixReader (List Item))
    (content : ByteStream.items reader = lastChunk.encode.map Item.byte ++ []) :
    (readBody .chunked Limits.largest.maxResponseBytes reader).1 = .ok [] := by
  have decoded : fromUtf8 lastChunk.sizeLine = some "0".toList := by decide
  have answer : readChunkedLoop Limits.largest.maxResponseBytes []
      (lastChunk.encode.map Item.byte ++ []) = (.ok [], []) :=
    readChunkedLoop_last decoded (by decide) rfl []
  exact (readChunkedBody_content content).trans (congrArg Prod.fst answer)

/-! ## When codings are removed soundly -/

section

variable {head : ReceivedHead} {fields : HeaderFields} {status : Nat}
  (decodes : DecodesCodings head) (parsedFields : parseHeaderFields head.bytes = .ok fields)
  (parsedStatus : parseStatusCode head.bytes = .ok status)
  (hasBody : hasNoBody status = false)

include decodes parsedFields parsedStatus hasBody

theorem onlyChunked_of_decodes (first : FirstIsChunked fields) :
    fieldValues fields "transfer-encoding".toList = [] ∨ OnlyChunked fields := by
  obtain ⟨out, accepted⟩ := readHttpResponse_accepted parsedFields parsedStatus
    (bodyMode_chunked hasBody first) readBody_lastChunk
  rcases decodes (List Item) Limits.largest _ _ out fields status rfl accepted parsedFields
      parsedStatus hasBody with none | ⟨only, _⟩
  · exact Or.inl none
  · exact Or.inr only

/-- If bytes of zero are accepted, the head names no coding. -/
theorem fieldValues_of_zeros {mode : BodyMode} {count : Nat}
    (hasMode : bodyMode fields status = .ok mode)
    (taken : ∀ reader : PrefixReader (List Item),
      ByteStream.items reader = (List.replicate count 0).map .byte →
        (readBody mode Limits.largest.maxResponseBytes reader).1 =
          .ok (List.replicate count 0)) :
    fieldValues fields "transfer-encoding".toList = [] := by
  obtain ⟨out, accepted⟩ := readHttpResponse_accepted parsedFields parsedStatus hasMode taken
  rcases decodes (List Item) Limits.largest _ _ out fields status rfl accepted parsedFields
      parsedStatus hasBody with none | ⟨_, body, decoded, _⟩
  · exact none
  · exact (zeros_not_chunked _ count body decoded).elim

/-- So many bytes of zero as announced, or none up to the end of the stream,
are accepted. -/
theorem fieldValues_of_decodes (other : ¬FirstIsChunked fields) :
    fieldValues fields "transfer-encoding".toList = [] ∨
      ∃ value, headerField fields "content-length".toList = some value ∧
        parseUnsigned usizeLimit value = none := by
  have mode := bodyMode_length hasBody other
  cases announced : headerField fields "content-length".toList with
  | none =>
      rw [announced] at mode
      have nothing : ∀ reader : PrefixReader (List Item),
          ByteStream.items reader = (List.replicate 0 0).map .byte →
            (readBody .untilEof Limits.largest.maxResponseBytes reader).1 =
              .ok (List.replicate 0 0) := by
        intro reader content
        have empty : ([] : Bytes).length ≤ Limits.largest.maxResponseBytes := Nat.zero_le _
        obtain ⟨rest, bodyRead, _⟩ := readUntilEof_bytes empty content
        exact congrArg Prod.fst bodyRead
      exact Or.inl (fieldValues_of_zeros decodes parsedFields parsedStatus hasBody mode nothing)
  | some value =>
      rw [announced] at mode
      cases parsed : parseUnsigned usizeLimit value with
      | none => exact Or.inr ⟨value, rfl, parsed⟩
      | some length =>
          simp only [parsed] at mode
          apply Or.inl
          apply fieldValues_of_zeros decodes parsedFields parsedStatus hasBody mode
          intro reader content
          obtain ⟨_, _, _, _, _, small⟩ := fromStrRadix_some (by decide) (by decide) parsed
          have fits : (List.replicate length (0 : UInt8)).length ≤
              Limits.largest.maxResponseBytes := by
            rw [List.length_replicate]
            change length ≤ usizeLimit - 1
            omega
          obtain ⟨rest, bodyRead, _⟩ :=
            readFixedBody_bytes fits (content.trans (List.append_nil _).symm)
          rw [List.length_replicate] at bodyRead
          exact congrArg Prod.fst bodyRead

end

theorem decodesCodings_iff (head : ReceivedHead) :
    DecodesCodings head ↔ CodingsUnderstood head := by
  constructor
  · intro decodes fields status parsedFields parsedStatus hasBody
    by_cases first : FirstIsChunked fields
    · rcases onlyChunked_of_decodes decodes parsedFields parsedStatus hasBody first with
        none | only
      · exact Or.inl none
      · exact Or.inr (Or.inl ⟨only, first⟩)
    · rcases fieldValues_of_decodes decodes parsedFields parsedStatus hasBody first with
        none | unparsed
      · exact Or.inl none
      · exact Or.inr (Or.inr ⟨first, unparsed⟩)
  · intro understood σ _ limits stream tail out fields status content accepted parsedFields
      parsedStatus hasBody
    obtain ⟨found, bodyPrefix, rest, foundFields, foundStatus, mode, body, scanned, readFields,
      readStatus, hasMode, bodyRead, encoded⟩ := readHttpResponse_ok accepted
    obtain ⟨rfl, split⟩ := readHeaderBlock_head head.isHead content scanned
    obtain rfl := Except.ok.inj (parsedFields.symm.trans readFields)
    obtain rfl := Except.ok.inj (parsedStatus.symm.trans readStatus)
    rcases understood fields status parsedFields parsedStatus hasBody with
      none | ⟨only, first⟩ | ⟨other, value, announced, unparsed⟩
    · exact Or.inl none
    · rw [bodyMode_chunked hasBody first] at hasMode
      obtain rfl := Except.ok.inj hasMode
      have readerContent : ByteStream.items (PrefixReader.new bodyPrefix rest) = tail := by
        rw [PrefixReader.items_new, ← split]
      exact Or.inr ⟨only, body, (readChunkedBody_content readerContent).symm.trans bodyRead,
        encoded⟩
    · rw [bodyMode_length hasBody other, announced] at hasMode
      simp [unparsed] at hasMode

def gzipReceived : ReceivedHead :=
  { bytes := gzipHead.encode, isHead := gzipHead.isHead, countable := gzipHead.countable }

set_option maxRecDepth 4000 in
/-- A body that is compressed and then chunked: the field goes, the chunks
stay. -/
theorem gzip_forwarded_coded :
    codings gzipHead.fields = ["gzip".toList, "chunked".toList] ∧
      (readHttpResponse ({} : Limits)
          ((gzipHead.encode ++ helloBody.encode).map Item.byte)).1 =
        .ok (toUtf8 ("HTTP/1.1 200 OK\r\nContent-Length: 19\r\n\r\n" ++
          "5;a=1\r\nhello\r\n0\r\n\r\n").toList) ∧
      ¬DecodesCodings gzipReceived := by
  have named : codings gzipHead.fields = ["gzip".toList, "chunked".toList] := by
    decide +kernel
  have accepted : (readHttpResponse ({} : Limits)
      ((gzipHead.encode ++ helloBody.encode).map Item.byte)).1 =
        .ok (toUtf8 ("HTTP/1.1 200 OK\r\nContent-Length: 19\r\n\r\n" ++
          "5;a=1\r\nhello\r\n0\r\n\r\n").toList) := by
    decide +kernel
  refine ⟨named, accepted, ?_⟩
  intro decodes
  have content : ByteStream.items ((gzipHead.encode ++ helloBody.encode).map Item.byte) =
      gzipHead.encode.map .byte ++ helloBody.encode.map .byte := by
    rw [items_content, List.map_append]
  rcases decodes (List Item) {} _ _ _ gzipHead.fields gzipHead.status content accepted
      gzipHead.parseHeaderFields gzipHead.parseStatusCode (by decide) with none | ⟨only, _⟩
  · exact absurd none (by decide)
  · exact absurd only (by decide +kernel)

end Mzani
