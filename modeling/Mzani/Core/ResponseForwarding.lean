import Mzani.Core.ResponseMessage

/-!
# Forwarded responses

What `read_http_response` returns: the status line, the fields other than the
framing fields, and the payload under an explicit `Content-Length`.  Reading a
returned response again gives it back.
-/

namespace Mzani

open Support

/-! ## The encoder -/

/-- The head of a forwarded response. -/
def forwardedHead (statusLine : Text) (fields : HeaderFields) (length : Nat) : Bytes :=
  encodeHead (statusLine ::
    ((otherFields fields).map formatField ++ [formatContentLength length]))

theorem encodeForwardedResponse_of_body {rawHead body out : Bytes} {status : Nat}
    {fields : HeaderFields} (hasBody : hasNoBody status = false) :
    encodeForwardedResponse rawHead status fields body = .ok out ↔
      ∃ head statusLine, fromUtf8 rawHead = some head ∧
        firstLine head = some statusLine ∧
        out = forwardedHead statusLine fields body.length ++ body := by
  simp only [encodeForwardedResponse, hasBody, Bool.false_eq_true, if_false]
  cases fromUtf8 rawHead with
  | none => simp
  | some head =>
      cases found : firstLine head with
      | none => simp [found]
      | some statusLine =>
          simp [found, forwardedHead, encodeHead, otherFields, eq_comm]

/-- The field that carries the length of the payload. -/
def lengthField (length : Nat) : Text × Text :=
  ("Content-Length".toList, Nat.toDigits 10 length)

theorem isFramingName_lengthField (length : Nat) :
    isFramingName (lengthField length).1 = true := by
  change isFramingName "Content-Length".toList = true
  decide

theorem readField_lengthField (length : Nat) : ReadField (lengthField length) := by
  have digits := allDigits_toDigits length
  constructor
  · change Trimmed "Content-Length".toList
    decide
  · exact trimmed_of_visible fun char member =>
      isWhitespace_of_toDigit (digits char member)
  · change ':' ∉ "Content-Length".toList
    decide
  · change ¬crlf <:+: "Content-Length".toList
    decide
  · intro occurs
    have digit := digits '\r' (occurs.subset (by simp))
    exact absurd digit (by decide)

theorem readField_of_mem_forwarded {fields : HeaderFields}
    (readFields : ∀ field ∈ fields, ReadField field) (length : Nat) :
    ∀ field ∈ otherFields fields ++ [lengthField length], ReadField field := by
  intro field member
  rcases List.mem_append.mp member with kept | added
  · exact readFields field (List.mem_of_mem_filter kept)
  · obtain rfl := List.mem_singleton.mp added
    exact readField_lengthField length

theorem forwardedHead_eq (statusLine : Text) (fields : HeaderFields) (length : Nat) :
    forwardedHead statusLine fields length =
      encodeHead (statusLine ::
        (otherFields fields ++ [lengthField length]).map formatField) := by
  rw [forwardedHead, List.map_append]
  rfl

section

variable {statusLine : Text} {fields : HeaderFields} {status : Nat}
  (newlineFree : '\n' ∉ statusLine) (hasStatus : HasStatus statusLine status)
  (readFields : ∀ field ∈ fields, ReadField field) (length : Nat)

include newlineFree hasStatus readFields

theorem forwardedHead_headLines :
    ∀ line ∈ statusLine ::
        (otherFields fields ++ [lengthField length]).map formatField,
      HeadLine line := by
  intro line member
  rcases List.mem_cons.mp member with rfl | inFields
  · refine ⟨hasStatus.ne_nil, fun occurs => newlineFree (occurs.subset (by simp))⟩
  · obtain ⟨field, isForwarded, rfl⟩ := List.mem_map.mp inFields
    exact (readField_of_mem_forwarded readFields length field isForwarded).headLine

theorem isHead_forwardedHead : IsHead (forwardedHead statusLine fields length) := by
  rw [forwardedHead_eq]
  exact isHead_encodeHead (by simp)
    (forwardedHead_headLines newlineFree hasStatus readFields length)

/-- The kept fields and the length are read back. -/
theorem parseHeaderFields_forwardedHead :
    parseHeaderFields (forwardedHead statusLine fields length) =
      .ok (otherFields fields ++ [lengthField length]) := by
  rw [forwardedHead_eq, parseHeaderFields_encodeHead
    (forwardedHead_headLines newlineFree hasStatus readFields length),
    List.forall₂_map_left_iff, List.forall₂_same]
  exact fun field member =>
    (readField_of_mem_forwarded readFields length field member).isField

end

theorem parseStatusCode_forwardedHead {statusLine : Text} {status : Nat}
    (newlineFree : '\n' ∉ statusLine) (hasStatus : HasStatus statusLine status)
    (fields : HeaderFields) (length : Nat) :
    parseStatusCode (forwardedHead statusLine fields length) = .ok status := by
  rw [forwardedHead_eq]
  exact parseStatusCode_encodeHead _ newlineFree hasStatus

theorem framingFields_forwarded (fields : HeaderFields) (length : Nat) :
    framingFields (otherFields fields ++ [lengthField length]) =
      [lengthField length] := by
  simp [framingFields, otherFields, isFramingName_lengthField, List.filter_filter]

theorem otherFields_forwarded (fields : HeaderFields) (length : Nat) :
    otherFields (otherFields fields ++ [lengthField length]) = otherFields fields := by
  simp [otherFields, isFramingName_lengthField]

/-- A forwarded response is read with the length it announces. -/
theorem bodyMode_forwarded {status length : Nat} (hasBody : hasNoBody status = false)
    (fields : HeaderFields) (small : length < usizeLimit) :
    bodyMode (otherFields fields ++ [lengthField length]) status =
      .ok (.fixed length) := by
  have noCoding : headerField (otherFields fields ++ [lengthField length])
      "transfer-encoding".toList = none := by
    rw [← headerField_framingFields isFramingName_transferEncoding,
      framingFields_forwarded]
    rfl
  have announced : headerField (otherFields fields ++ [lengthField length])
      "content-length".toList = some (Nat.toDigits 10 length) := by
    rw [← headerField_framingFields isFramingName_contentLength,
      framingFields_forwarded]
    rfl
  exact bodyMode_fixed hasBody (not_firstIsChunked_of_none noCoding) announced
    (parseUnsigned_toDigits small)

/-! ## Forwarding a well-formed response -/

/-- A body with its framing. -/
inductive SentBody where
  | fixed (bytes : Bytes)
  | chunked (body : ChunkedBody)
  | untilEof (bytes : Bytes)

namespace SentBody

def encode : SentBody → Bytes
  | .fixed bytes => bytes
  | .chunked body => body.encode
  | .untilEof bytes => bytes

def payload : SentBody → Bytes
  | .fixed bytes => bytes
  | .chunked body => body.payload
  | .untilEof bytes => bytes

/-- The one framing field, or none, that announces the body. -/
def AnnouncedBy (fields : HeaderFields) : SentBody → Prop
  | .fixed bytes => ∃ name digits, framingFields fields = [(name, digits)] ∧
      eqIgnoreAsciiCase name "content-length".toList = true ∧
      digits ≠ [] ∧ AllDigits 10 digits ∧ digitsValue 10 0 digits = bytes.length
  | .chunked body => ∃ name coding, framingFields fields = [(name, coding)] ∧
      eqIgnoreAsciiCase name "transfer-encoding".toList = true ∧
      eqIgnoreAsciiCase coding "chunked".toList = true ∧ body.Readable
  | .untilEof _ => framingFields fields = []

/-- What may follow the body on the stream: anything, unless the end of the
stream ends the body. -/
def MayPrecede (tail : List Item) : SentBody → Prop
  | .untilEof _ => tail = []
  | _ => True

def mode : SentBody → BodyMode
  | .fixed bytes => .fixed bytes.length
  | .chunked _ => .chunked
  | .untilEof _ => .untilEof

end SentBody

theorem headerField_of_framing {fields : HeaderFields} {name value : Text}
    (only : framingFields fields = [(name, value)]) {wanted : Text}
    (framing : isFramingName wanted = true) :
    headerField fields wanted =
      if eqIgnoreAsciiCase name wanted then some value else none := by
  rw [← headerField_framingFields framing, only]
  cases same : eqIgnoreAsciiCase name wanted <;> simp [headerField, same]

theorem not_firstIsChunked_of_framing {fields : HeaderFields} {name value : Text}
    (only : framingFields fields = [(name, value)])
    (isLength : eqIgnoreAsciiCase name "content-length".toList = true) :
    ¬FirstIsChunked fields := by
  have notCoding : eqIgnoreAsciiCase name "transfer-encoding".toList = false := by
    rw [eqIgnoreAsciiCase_congr isLength]
    decide
  apply not_firstIsChunked_of_none
  rw [headerField_of_framing only isFramingName_transferEncoding, notCoding]
  rfl

theorem headerField_length_of_framing {fields : HeaderFields} {name value : Text}
    (only : framingFields fields = [(name, value)])
    (isLength : eqIgnoreAsciiCase name "content-length".toList = true) :
    headerField fields "content-length".toList = some value := by
  rw [headerField_of_framing only isFramingName_contentLength, isLength]
  rfl

theorem firstIsChunked_of_framing {fields : HeaderFields} {name coding : Text}
    (only : framingFields fields = [(name, coding)])
    (isCoding : eqIgnoreAsciiCase name "transfer-encoding".toList = true)
    (isChunked : eqIgnoreAsciiCase coding "chunked".toList = true) :
    FirstIsChunked fields := by
  apply firstIsChunked_of_headerField _ isChunked
  rw [headerField_of_framing only isFramingName_transferEncoding, isCoding]
  rfl

theorem headerField_of_unframed {fields : HeaderFields} (unframed : framingFields fields = [])
    {wanted : Text} (framing : isFramingName wanted = true) :
    headerField fields wanted = none := by
  rw [← headerField_framingFields framing, unframed]
  rfl

theorem bodyMode_announced {body : SentBody} {fields : HeaderFields}
    {status : Nat} (hasBody : hasNoBody status = false)
    (announced : body.AnnouncedBy fields) (small : body.payload.length < usizeLimit) :
    bodyMode fields status = .ok body.mode := by
  cases body with
  | fixed bytes =>
      obtain ⟨name, digits, only, isLength, nonempty, all, value⟩ := announced
      have parsed : parseUnsigned usizeLimit digits = some bytes.length :=
        (fromStrRadix_eq_some_iff (by decide) (by decide) nonempty all).mpr
          ⟨value, small⟩
      exact bodyMode_fixed hasBody (not_firstIsChunked_of_framing only isLength)
        (headerField_length_of_framing only isLength) parsed
  | chunked body =>
      obtain ⟨name, coding, only, isCoding, isChunked, _⟩ := announced
      exact bodyMode_chunked hasBody (firstIsChunked_of_framing only isCoding isChunked)
  | untilEof bytes =>
      apply bodyMode_untilEof hasBody
      · exact not_firstIsChunked_of_none
          (headerField_of_unframed announced isFramingName_transferEncoding)
      · exact headerField_of_unframed announced isFramingName_contentLength

theorem readBody_announced {σ : Type} [ByteStream σ] {body : SentBody}
    {fields : HeaderFields} {maxBytes : Usize} {tail : List Item} {reader : σ}
    (announced : body.AnnouncedBy fields)
    (fits : body.payload.length ≤ maxBytes) (precedes : body.MayPrecede tail)
    (content : ByteStream.items reader = body.encode.map .byte ++ tail) :
    (readBody body.mode maxBytes reader).1 = .ok body.payload := by
  cases body with
  | fixed bytes =>
      obtain ⟨rest, answer, _⟩ := readFixedBody_bytes fits content
      exact congrArg Prod.fst answer
  | chunked body =>
      obtain ⟨_, _, _, _, _, readable⟩ := announced
      have answer := readChunkedBody_encode readable fits maxBytes.isLt tail
      exact (readChunkedBody_content content).trans (congrArg Prod.fst answer)
  | untilEof bytes =>
      obtain rfl : tail = [] := precedes
      rw [List.append_nil] at content
      obtain ⟨rest, answer, _⟩ := readUntilEof_bytes fits content
      exact congrArg Prod.fst answer

/-- An announced body is read and sent on under its length. -/
theorem readHttpResponse_announced {σ : Type} [ByteStream σ] {limits : Limits}
    {head : ResponseHead} {body : SentBody} {tail : List Item} {stream : σ}
    (hasBody : hasNoBody head.status = false)
    (announced : body.AnnouncedBy head.fields)
    (headFits : head.encode.length ≤ limits.maxHeaderBytes)
    (bodyFits : body.payload.length ≤ limits.maxResponseBytes)
    (precedes : body.MayPrecede tail)
    (content : ByteStream.items stream =
      (head.encode ++ body.encode).map .byte ++ tail) :
    (readHttpResponse limits stream).1 =
      .ok (forwardedHead head.statusLine head.fields body.payload.length ++
        body.payload) := by
  rw [List.map_append, List.append_assoc] at content
  have hasMode := bodyMode_announced hasBody announced
    (Nat.lt_of_le_of_lt bodyFits limits.maxResponseBytes.isLt)
  obtain ⟨reader, readerContent, answer⟩ := readHttpResponse_of_head head.isHead
    (Nat.le_succ_of_le headFits) head.parseHeaderFields head.parseStatusCode hasMode content
  rw [answer, readBody_announced announced bodyFits precedes readerContent]
  exact (encodeForwardedResponse_of_body hasBody).mpr
    ⟨_, head.statusLine, fromUtf8_encodeHead _,
      firstLine_encodeHead _ head.newlineFree, rfl⟩

/-- A well-formed response is forwarded with its status line, its other
fields in order, and its payload, in every split of the stream. -/
theorem readHttpResponse_forwards {σ : Type} [ByteStream σ] {limits : Limits}
    {head : ResponseHead} {body : SentBody} {tail : List Item} {stream : σ}
    (hasBody : hasNoBody head.status = false)
    (announced : body.AnnouncedBy head.fields)
    (headFits : head.encode.length ≤ limits.maxHeaderBytes)
    (bodyFits : body.payload.length ≤ limits.maxResponseBytes)
    (precedes : body.MayPrecede tail)
    (content : ByteStream.items stream =
      (head.encode ++ body.encode).map .byte ++ tail) :
    (readHttpResponse limits stream).1 =
      .ok (encodeHead (head.statusLine ::
          ((otherFields head.fields).map formatField ++
            [formatContentLength body.payload.length])) ++ body.payload) :=
  readHttpResponse_announced hasBody announced headFits bodyFits precedes content

/-- A chunk with an extension. -/
def helloChunk : Chunk where
  size := "5".toList
  blanks := []
  extension := toUtf8 ";a=1".toList
  data := toUtf8 "hello".toList
  sizeNonempty := by decide
  sizeDigits := by decide
  sizeValue := by decide
  blanksBlank := by decide
  extensionStart := by decide
  extensionFree := by decide

def lastChunk : Chunk where
  size := "0".toList
  blanks := []
  extension := []
  data := []
  sizeNonempty := by decide
  sizeDigits := by decide
  sizeValue := by decide
  blanksBlank := by decide
  extensionStart := by decide
  extensionFree := by decide

def helloBody : ChunkedBody where
  chunks := [helloChunk]
  last := lastChunk
  chunksNonempty := by decide
  lastEmpty := rfl

/-- The head of a 200 response. -/
def okHead (lines : List FieldLine)
    (countable : (encodeHead ("HTTP/1.1 200 OK".toList ::
      lines.map FieldLine.line)).length ≤ usizeLimit) : ResponseHead where
  statusLine := "HTTP/1.1 200 OK".toList
  status := 200
  lines := lines
  lineEndFree := by decide
  hasStatus := ⟨"HTTP/1.1".toList, "200".toList, ["OK".toList], by decide, by decide⟩
  countable := countable

def serverLine : FieldLine :=
  .plain "Server".toList "x".toList (by decide) (by decide) (by decide) (by decide)
    (by decide)

def chunkedLine : FieldLine :=
  .plain "transfer-encoding".toList "Chunked".toList (by decide) (by decide) (by decide)
    (by decide) (by decide)

def chunkedHead : ResponseHead := okHead [chunkedLine, serverLine] (by decide)

/-- A chunked response, one byte a read, with an error behind it. -/
def chunkedStream : List Item :=
  (chunkedHead.encode ++ (SentBody.chunked helloBody).encode).map .byte ++
    [.fail readExactEof]

theorem readHttpResponse_forwards_chunked :
    (readHttpResponse ({} : Limits) chunkedStream).1 =
      .ok (toUtf8 "HTTP/1.1 200 OK\r\nServer: x\r\nContent-Length: 5\r\n\r\nhello".toList) := by
  have announced : (SentBody.chunked helloBody).AnnouncedBy chunkedHead.fields :=
    ⟨_, _, rfl, by decide, by decide, by decide⟩
  have content : ByteStream.items chunkedStream =
      (chunkedHead.encode ++ (SentBody.chunked helloBody).encode).map .byte ++
        [.fail readExactEof] := rfl
  rw [readHttpResponse_forwards (by decide) announced (by decide) (by decide) trivial
    content]
  rfl

/-! ## Reading a forwarded response again -/

/-- The encoder is a left inverse of the reader on its own output. -/
theorem readHttpResponse_forwarded {σ : Type} [ByteStream σ] {limits : Limits}
    {statusLine : Text} {fields : HeaderFields} {status : Nat} {body : Bytes}
    {tail : List Item} {stream : σ} (hasBody : hasNoBody status = false)
    (newlineFree : '\n' ∉ statusLine) (hasStatus : HasStatus statusLine status)
    (readFields : ∀ field ∈ fields, ReadField field)
    (headFits : (forwardedHead statusLine fields body.length).length ≤
      limits.maxHeaderBytes)
    (bodyFits : body.length ≤ limits.maxResponseBytes)
    (content : ByteStream.items stream =
      (forwardedHead statusLine fields body.length ++ body).map .byte ++ tail) :
    (readHttpResponse limits stream).1 =
      .ok (forwardedHead statusLine fields body.length ++ body) := by
  rw [List.map_append, List.append_assoc] at content
  have hasMode := bodyMode_forwarded hasBody fields
    (Nat.lt_of_le_of_lt bodyFits limits.maxResponseBytes.isLt)
  obtain ⟨reader, readerContent, answer⟩ := readHttpResponse_of_head
    (isHead_forwardedHead newlineFree hasStatus readFields body.length)
    (Nat.le_succ_of_le headFits)
    (parseHeaderFields_forwardedHead newlineFree hasStatus readFields body.length)
    (parseStatusCode_forwardedHead newlineFree hasStatus fields body.length)
    hasMode content
  obtain ⟨rest, bodyRead, _⟩ := readFixedBody_bytes bodyFits readerContent
  have bodyAnswer : (readBody (.fixed body.length) limits.maxResponseBytes reader).1 =
      .ok body := congrArg Prod.fst bodyRead
  rw [answer, bodyAnswer]
  apply (encodeForwardedResponse_of_body hasBody).mpr
  refine ⟨_, statusLine, fromUtf8_encodeHead _,
    firstLine_encodeHead _ newlineFree, ?_⟩
  rw [forwardedHead, forwardedHead, otherFields_forwarded]

/-- A response without a body is returned as its head, and read back so. -/
theorem readHttpResponse_bodyless {σ : Type} [ByteStream σ] {limits : Limits}
    {head : Bytes} {fields : HeaderFields} {status : Nat} {tail : List Item}
    {stream : σ} (noBody : hasNoBody status = true) (isHead : IsHead head)
    (parsedFields : parseHeaderFields head = .ok fields)
    (parsedStatus : parseStatusCode head = .ok status)
    (headFits : head.length ≤ limits.maxHeaderBytes)
    (content : ByteStream.items stream = head.map .byte ++ tail) :
    (readHttpResponse limits stream).1 = .ok head := by
  obtain ⟨reader, readerContent, answer⟩ := readHttpResponse_of_head isHead
    (Nat.le_succ_of_le headFits) parsedFields parsedStatus (bodyMode_bodyless noBody fields)
    content
  have empty : ([] : Bytes).length ≤ limits.maxResponseBytes := Nat.zero_le _
  obtain ⟨rest, bodyRead, _⟩ := readFixedBody_bytes empty readerContent
  have bodyAnswer : (readBody (.fixed 0) limits.maxResponseBytes reader).1 = .ok [] :=
    congrArg Prod.fst bodyRead
  rw [answer, bodyAnswer]
  change encodeForwardedResponse head status fields [] = .ok head
  rw [encodeForwardedResponse, if_pos noBody]

/-- A response with a body goes out under a head with the status that was
read. -/
theorem encodeForwardedResponse_head {rawHead body out : Bytes} {status : Nat}
    {fields : HeaderFields} (hasBody : hasNoBody status = false)
    (parsedStatus : parseStatusCode rawHead = .ok status)
    (encoded : encodeForwardedResponse rawHead status fields body = .ok out) :
    ∃ statusLine, '\n' ∉ statusLine ∧ HasStatus statusLine status ∧
      out = forwardedHead statusLine fields body.length ++ body := by
  obtain ⟨text, statusLine, decoded, first, rfl⟩ :=
    (encodeForwardedResponse_of_body hasBody).mp encoded
  obtain ⟨text', statusLine', decoded', first', hasStatus⟩ :=
    parseStatusCode_eq_ok_iff.mp parsedStatus
  obtain rfl := Option.some.inj (decoded.symm.trans decoded')
  obtain rfl := Option.some.inj (first.symm.trans first')
  exact ⟨statusLine, firstLine_free first, hasStatus, rfl⟩

/-- Whatever was read, the returned response is a head and a body that read
back as themselves; the head announces the body with one length field and
keeps status and other fields. -/
theorem readHttpResponse_again {σ : Type} [ByteStream σ] {limits : Limits}
    {stream : σ} {out : Bytes}
    (answer : (readHttpResponse limits stream).1 = .ok out) :
    ∃ head body, out = head ++ body ∧ IsHead head ∧
      (head.length ≤ limits.maxHeaderBytes →
        ∀ {τ : Type} [ByteStream τ] (again : τ) (tail : List Item),
          ByteStream.items again = out.map .byte ++ tail →
            (readHttpResponse limits again).1 = .ok out) ∧
      ∃ rawHead bodyPrefix rest fields status,
        readHeaderBlock limits.maxHeaderBytes stream =
            (.ok (rawHead, bodyPrefix), rest) ∧
          parseHeaderFields rawHead = .ok fields ∧
          parseStatusCode rawHead = .ok status ∧
          (hasNoBody status = false →
            ∃ outFields, parseHeaderFields head = .ok outFields ∧
              parseStatusCode head = .ok status ∧
              framingFields outFields =
                [("Content-Length".toList, Nat.toDigits 10 body.length)] ∧
              otherFields outFields = otherFields fields) := by
  obtain ⟨rawHead, bodyPrefix, rest, fields, status, mode, body, scanned, parsedFields,
    parsedStatus, _, bodyRead, encoded⟩ := readHttpResponse_ok answer
  by_cases noBody : hasNoBody status = true
  · rw [encodeForwardedResponse, if_pos noBody, Except.ok.injEq] at encoded
    subst encoded
    have isHead := (readHeaderBlock_ok scanned).2.1
    refine ⟨rawHead, [], (List.append_nil _).symm, isHead, ?_, rawHead, bodyPrefix, rest,
      fields, status, scanned, parsedFields, parsedStatus, ?_⟩
    · intro headFits τ _ again tail content
      exact readHttpResponse_bodyless noBody isHead parsedFields parsedStatus headFits
        content
    · simp [noBody]
  · rw [Bool.not_eq_true] at noBody
    obtain ⟨statusLine, newlineFree, hasStatus, rfl⟩ :=
      encodeForwardedResponse_head noBody parsedStatus encoded
    have readFields := readField_of_parseHeaderFields parsedFields
    refine ⟨_, body, rfl,
      isHead_forwardedHead newlineFree hasStatus readFields body.length, ?_,
      rawHead, bodyPrefix, rest, fields, status, scanned, parsedFields, parsedStatus, ?_⟩
    · intro headFits τ _ again tail content
      exact readHttpResponse_forwarded noBody newlineFree hasStatus readFields headFits
        (held_of_readBody bodyRead).2 content
    · intro _
      exact ⟨_, parseHeaderFields_forwardedHead newlineFree hasStatus readFields body.length,
        parseStatusCode_forwardedHead newlineFree hasStatus fields body.length,
        framingFields_forwarded fields body.length,
        otherFields_forwarded fields body.length⟩

/-- A backend that repeats the length field and pads it. -/
def repeatedLength : Bytes :=
  toUtf8 ("HTTP/1.1 200 OK\r\nContent-Length:  5\r\n: x\r\ncontent-length: 7" ++
    "\r\n\r\nhello").toList

set_option maxRecDepth 4000 in
theorem readHttpResponse_again_repeatedLength :
    ∃ out head body, (readHttpResponse ({} : Limits) (repeatedLength.map Item.byte)).1 =
        .ok out ∧ out = head ++ body ∧ IsHead head ∧
      (head.length ≤ ({} : Limits).maxHeaderBytes →
        ∀ {τ : Type} [ByteStream τ] (again : τ) (tail : List Item),
          ByteStream.items again = out.map .byte ++ tail →
            (readHttpResponse {} again).1 = .ok out) := by
  have answer : (readHttpResponse ({} : Limits) (repeatedLength.map Item.byte)).1 =
      .ok (toUtf8 "HTTP/1.1 200 OK\r\n: x\r\nContent-Length: 5\r\n\r\nhello".toList) := by
    decide +kernel
  obtain ⟨head, body, whole, isHead, again, _⟩ := readHttpResponse_again answer
  exact ⟨_, head, body, answer, whole, isHead, again⟩

end Mzani
