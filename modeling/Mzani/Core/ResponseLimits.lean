import Mzani.Core.TransferCodings

/-!
# The response size limit

A body over the limit is refused in all three framings, and while it is read
no more than one read's bytes over the limit are ever held.
-/

namespace Mzani

open Support

/-! ## Bodies over the limit -/

/-- More bytes than the limit, and anything after them. -/
theorem readUntilEofLoop_long {σ : Type} [ByteStream σ] {maxBytes : Nat}
    {body more : Bytes} {tail : List Item} {stream : σ} (within : body.length ≤ maxBytes)
    (long : maxBytes < body.length + more.length)
    (content : ByteStream.items stream = more.map .byte ++ tail) :
    (readUntilEofLoop maxBytes body stream).1 = .error .bodyTooLarge := by
  induction body using readUntilEofLoop.induct maxBytes
    generalizing more stream with
  | case1 body induction =>
      have nonempty : more ≠ [] := by
        rintro rfl
        simp at long
        omega
      obtain ⟨chunk, rest, answer, chunkNonempty, cut⟩ :=
        read_of_bytes (by decide : 0 < 4096) nonempty content
      rw [readUntilEofLoop_pass, untilEofPass, answer]
      simp only [if_neg chunkNonempty]
      by_cases full : maxBytes < (body ++ chunk).length
      · rw [if_pos full]
        rfl
      · rw [if_neg full]
        change (readUntilEofLoop maxBytes (body ++ chunk) rest).1 = _
        rcases cut with ⟨left, rfl, restContent⟩ | ⟨extra, rfl, _⟩
        · apply induction chunk chunkNonempty full (Nat.le_of_not_lt full) _ restContent
          simp only [List.length_append] at long ⊢
          omega
        · simp only [List.length_append] at full
          omega

/-- The first chunk that exceeds the limit is refused at its size line. -/
theorem readChunkedLoop_long {chunks : List Chunk} {maxBytes : Nat} {body : Bytes}
    (nonempty : ∀ chunk ∈ chunks, chunk.data ≠ [])
    (readable : ∀ chunk ∈ chunks,
      (fromUtf8 chunk.extension).isSome ∧ chunk.sizeLine.length ≤ 8191)
    (countable : ∀ chunk ∈ chunks, chunk.data.length < usizeLimit)
    (within : body.length ≤ maxBytes)
    (long : maxBytes < body.length + (chunks.flatMap Chunk.data).length)
    (tail : List Item) :
    (readChunkedLoop maxBytes body
        ((chunks.flatMap Chunk.encode).map .byte ++ tail)).1 =
      .error .bodyTooLarge := by
  induction chunks generalizing body with
  | nil =>
      simp at long
      omega
  | cons chunk chunks induction =>
      obtain ⟨decodable, short⟩ := readable chunk List.mem_cons_self
      have more := nonempty chunk List.mem_cons_self
      obtain ⟨text, decoded⟩ := Chunk.decoded decodable
      have reads := chunk.readsSize decoded short (countable chunk List.mem_cons_self)
      rw [List.flatMap_cons, List.length_append] at long
      rw [List.flatMap_cons, List.map_append, List.append_assoc, chunk.encode_content]
      by_cases full : maxBytes < body.length + chunk.data.length
      · obtain ⟨_, text, decoded, parsed⟩ := reads
        have positive : chunk.data.length ≠ 0 := by simpa using more
        rw [readChunkedLoop_size (readLine_line chunk.isLine short _) decoded parsed,
          if_neg positive, if_pos full]
      · have fits := Nat.le_of_not_lt full
        rw [readChunkedLoop_data chunk.isLine reads more fits]
        apply induction
        · exact fun other member => nonempty other (List.mem_cons_of_mem _ member)
        · exact fun other member => readable other (List.mem_cons_of_mem _ member)
        · exact fun other member => countable other (List.mem_cons_of_mem _ member)
        · rw [List.length_append]
          exact fits
        · rw [List.length_append]
          omega

theorem length_flatMap_data_le (chunks : List Chunk) :
    (chunks.flatMap Chunk.data).length ≤ (chunks.flatMap Chunk.encode).length := by
  induction chunks with
  | nil => exact Nat.le_refl _
  | cons chunk chunks induction =>
      have longer : chunk.data.length ≤ chunk.encode.length := by
        simp only [Chunk.encode, List.length_append]
        omega
      rw [List.flatMap_cons, List.flatMap_cons, List.length_append, List.length_append]
      omega

/-! ## The three framings -/

/-- A body as it is framed on the wire.  The last chunk and the trailers may
follow the chunks, or anything else. -/
inductive FramedBody where
  | fixed (bytes : Bytes)
  | chunked (chunks : List Chunk) (nonempty : ∀ chunk ∈ chunks, chunk.data ≠ [])
  | untilEof (bytes : Bytes)

namespace FramedBody

def payload : FramedBody → Bytes
  | .fixed bytes => bytes
  | .chunked chunks _ => chunks.flatMap Chunk.data
  | .untilEof bytes => bytes

def encode : FramedBody → Bytes
  | .fixed bytes => bytes
  | .chunked chunks _ => chunks.flatMap Chunk.encode
  | .untilEof bytes => bytes

/-- How the fields of the head frame the body: by lengths that agree, by
codings of which the last is `chunked`, or by neither. -/
def FramedBy (fields : HeaderFields) : FramedBody → Prop
  | .fixed bytes => fieldValues fields "transfer-encoding".toList = [] ∧
      fieldValues fields "content-length".toList ≠ [] ∧
      ∀ value ∈ fieldValues fields "content-length".toList,
        value ≠ [] ∧ AllDigits 10 value ∧ digitsValue 10 0 value = bytes.length
  | .chunked _ _ => fieldValues fields "content-length".toList = [] ∧
      ∃ coding, (codings fields).getLast? = some coding ∧
        eqIgnoreAsciiCase coding "chunked".toList = true
  | .untilEof _ => fieldValues fields "content-length".toList = [] ∧
      ∀ coding ∈ codings fields, eqIgnoreAsciiCase coding "chunked".toList = false

/-- A machine can count the length and the chunk sizes, and the size lines
are within the line limit. -/
def Countable : FramedBody → Prop
  | .fixed bytes => bytes.length < usizeLimit
  | .chunked chunks _ => ∀ chunk ∈ chunks,
      chunk.data.length < usizeLimit ∧ chunk.sizeLine.length ≤ 8191
  | .untilEof _ => True

/-- The chunk extensions are text. -/
def Readable : FramedBody → Prop
  | .chunked chunks _ => ∀ chunk ∈ chunks, (fromUtf8 chunk.extension).isSome = true
  | _ => True

end FramedBody

/-- If the reader recognises the chunked coding, the fields name it. -/
theorem codings_of_firstIsChunked {fields : HeaderFields} (first : FirstIsChunked fields) :
    ∃ coding ∈ codings fields, eqIgnoreAsciiCase coding "chunked".toList = true := by
  obtain ⟨value, found, isChunked⟩ := (Option.any_eq_true _ _).mp first
  have sameChars : value.map Char.toLower = "chunked".toList.map Char.toLower := by
    simpa [eqIgnoreAsciiCase] using isChunked
  have letters : ∀ char ∈ value, char.toLower ∈ "chunked".toList.map Char.toLower := by
    intro char member
    rw [← sameChars]
    exact List.mem_map_of_mem member
  have noComma : ∀ char ∈ value, (char == ',') = false := by
    intro char member
    rw [beq_eq_false_iff_ne]
    rintro rfl
    exact absurd (letters ',' member) (by decide)
  have trimmed : Trimmed value := by
    apply trimmed_of_visible
    intro char member
    rw [Bool.eq_false_iff]
    intro blank
    have letter := letters char member
    rw [toLower_of_isWhitespace blank] at letter
    have visible : ∀ letter ∈ "chunked".toList.map Char.toLower,
        isWhitespace letter = false := by decide
    simp [visible char letter] at blank
  have nonempty : value ≠ [] := by
    rintro rfl
    exact absurd sameChars (by decide)
  have isValue : value ∈ fieldValues fields "transfer-encoding".toList := by
    rw [headerField_eq_head?] at found
    exact List.mem_of_head? found
  refine ⟨value, ?_, isChunked⟩
  rw [codings, List.mem_flatMap]
  refine ⟨value, isValue, ?_⟩
  rw [List.splitOnP_eq_singleton noComma, List.map_singleton, trimmed]
  simpa using nonempty

theorem readBody_untilEof_long {bytes : Bytes} {maxBytes : Nat} {σ : Type} [ByteStream σ]
    (reader : σ) (tail : List Item) (long : maxBytes < bytes.length)
    (content : ByteStream.items reader = bytes.map .byte ++ tail) :
    (readBody .untilEof maxBytes reader).1 = .error .bodyTooLarge := by
  have longer : maxBytes < ([] : Bytes).length + bytes.length := by simpa using long
  exact readUntilEofLoop_long (Nat.zero_le maxBytes) longer content

/-- A framed body over the limit is refused under the mode of its fields. -/
theorem FramedBody.readBody_long {body : FramedBody} {fields : HeaderFields}
    {status maxBytes : Nat} (hasBody : hasNoBody status = false)
    (framed : body.FramedBy fields) (countable : body.Countable) (readable : body.Readable)
    (long : maxBytes < body.payload.length) :
    ∃ mode, bodyMode fields status = .ok mode ∧
      ∀ {σ : Type} [ByteStream σ] (reader : σ) (tail : List Item),
        ByteStream.items reader = body.encode.map .byte ++ tail →
          (readBody mode maxBytes reader).1 = .error .bodyTooLarge := by
  cases body with
  | fixed bytes =>
      obtain ⟨noCoding, hasLength, lengths⟩ := framed
      refine ⟨.fixed bytes.length,
        (bodyMode_of_lengths hasBody noCoding hasLength lengths).mpr ⟨countable, rfl⟩, ?_⟩
      intro σ _ reader tail _
      have large : maxBytes < bytes.length := long
      change (readFixedBody bytes.length maxBytes reader).1 = _
      rw [readFixedBody, if_pos large]
      rfl
  | chunked chunks nonempty =>
      obtain ⟨noLength, _⟩ := framed
      by_cases first : FirstIsChunked fields
      · refine ⟨.chunked, bodyMode_chunked hasBody first, ?_⟩
        intro σ _ reader tail content
        have longer : maxBytes < ([] : Bytes).length + (chunks.flatMap Chunk.data).length := by
          rw [List.length_nil, Nat.zero_add]
          exact long
        have refused := readChunkedLoop_long nonempty
          (fun chunk member => ⟨readable chunk member, (countable chunk member).2⟩)
          (fun chunk member => (countable chunk member).1) (Nat.zero_le maxBytes) longer tail
        exact (readChunkedBody_content content).trans refused
      · -- the chunked coding is not recognised, and the chunks are longer still
        refine ⟨.untilEof, bodyMode_untilEof hasBody first (headerField_eq_none noLength), ?_⟩
        intro σ _ reader tail content
        have longer : maxBytes < (chunks.flatMap Chunk.encode).length :=
          Nat.lt_of_lt_of_le long (length_flatMap_data_le chunks)
        exact readBody_untilEof_long reader tail longer content
  | untilEof bytes =>
      obtain ⟨noLength, others⟩ := framed
      have other : ¬FirstIsChunked fields := by
        intro first
        obtain ⟨coding, member, isChunked⟩ := codings_of_firstIsChunked first
        rw [others coding member] at isChunked
        cases isChunked
      refine ⟨.untilEof, bodyMode_untilEof hasBody other (headerField_eq_none noLength), ?_⟩
      intro σ _ reader tail content
      exact readBody_untilEof_long reader tail long content

/-! ## The limit -/

/-- A body that `read_http_response` holds at some moment. -/
def HoldsBody {σ : Type} [Read σ] (limits : Limits) (stream : σ) (held : Bytes) : Prop :=
  ∃ head bodyPrefix rest fields status mode,
    readHeaderBlock limits.maxHeaderBytes stream = (.ok (head, bodyPrefix), rest) ∧
      parseHeaderFields head = .ok fields ∧ parseStatusCode head = .ok status ∧
      bodyMode fields status = .ok mode ∧
      Held mode limits.maxResponseBytes [] (PrefixReader.new bodyPrefix rest) held

/-- `usize::saturating_add` -/
def saturatingAdd (left right : Nat) : Nat :=
  min (left + right) (usizeLimit - 1)

/-- What is returned was held and is within the limit; nothing that is ever
held exceeds it by more than one read; a framed body over the limit is refused
as such in every split.  The saturating sum of the source decides the same as
the sum, under every limit below the largest. -/
theorem responseLimit_exact (limits : Limits) :
    (∀ {σ : Type} [Read σ] (stream : σ),
      (∀ out, (readHttpResponse limits stream).1 = .ok out →
        ∃ head status fields body, HoldsBody limits stream body ∧
          body.length ≤ limits.maxResponseBytes ∧
          encodeForwardedResponse head status fields body = .ok out) ∧
        ∀ held, HoldsBody limits stream held →
          held.length ≤ limits.maxResponseBytes + 4096) ∧
      (∀ {σ : Type} [ByteStream σ] (stream : σ) (head : ResponseHead) (body : FramedBody)
        (tail : List Item), hasNoBody head.status = false →
          head.encode.length ≤ limits.maxHeaderBytes →
            body.FramedBy head.fields → body.Countable → body.Readable →
              limits.maxResponseBytes < body.payload.length →
                ByteStream.items stream = (head.encode ++ body.encode).map .byte ++ tail →
                  (readHttpResponse limits stream).1 = .error .bodyTooLarge) ∧
      ∀ (body : Bytes) (chunkSize : Nat), limits.maxResponseBytes.val < usizeLimit - 1 →
        (limits.maxResponseBytes < saturatingAdd body.length chunkSize ↔
          limits.maxResponseBytes < body.length + chunkSize) := by
  refine ⟨?_, ?_, ?_⟩
  · intro σ _ stream
    constructor
    · intro out accepted
      obtain ⟨head, bodyPrefix, rest, fields, status, mode, body, scanned, parsedFields,
        parsedStatus, hasMode, bodyRead, encoded⟩ := readHttpResponse_ok accepted
      obtain ⟨isHeld, fits⟩ := held_of_readBody bodyRead
      exact ⟨head, status, fields, body, ⟨head, bodyPrefix, rest, fields, status, mode,
        scanned, parsedFields, parsedStatus, hasMode, isHeld⟩, fits, encoded⟩
    · rintro held ⟨_, _, _, _, _, _, _, _, _, _, isHeld⟩
      exact isHeld.length_le (Nat.zero_le _)
  · intro σ _ stream head body tail hasBody headFits framed countable readable long content
    obtain ⟨mode, hasMode, refused⟩ :=
      FramedBody.readBody_long hasBody framed countable readable long
    rw [List.map_append, List.append_assoc] at content
    obtain ⟨reader, readerContent, answer⟩ := readHttpResponse_of_head head.isHead
      (Nat.le_succ_of_le headFits) head.parseHeaderFields head.parseStatusCode hasMode content
    rw [answer, refused reader tail readerContent]
    rfl
  · intro body chunkSize below
    rw [saturatingAdd]
    omega

/-- Five bytes in one chunk, under a limit of four. -/
def overlong : FramedBody := .chunked helloBody.chunks helloBody.chunksNonempty

theorem responseLimit_exact_overlong :
    (readHttpResponse ({ maxResponseBytes := 4 } : Limits)
        ((chunkedHead.encode ++ overlong.encode).map Item.byte)).1 = .error .bodyTooLarge := by
  have framed : overlong.FramedBy chunkedHead.fields := by
    refine ⟨by decide, "Chunked".toList, ?_, by decide⟩
    decide +kernel
  have countable : overlong.Countable := by
    intro chunk member
    obtain rfl := List.mem_singleton.mp member
    decide
  have readable : overlong.Readable := by
    intro chunk member
    obtain rfl := List.mem_singleton.mp member
    decide
  exact (responseLimit_exact { maxResponseBytes := 4 }).2.1 _ chunkedHead overlong []
    (by decide) (by decide) framed countable readable (by decide)
    (List.append_nil _).symm

/-- A length that a machine cannot count. -/
def uncountableLine : FieldLine :=
  { lengthLine with
    value := "18446744073709551616".toList, valueTrimmed := by decide, lineEndFree := by decide }

def uncountableHead : ResponseHead := okHead [uncountableLine] (by decide)

def uncountable : FramedBody := .fixed (List.replicate usizeLimit 0)

/-- A chunk whose extension is a byte that is no text. -/
def oddChunk : Chunk :=
  { helloChunk with
    extension := [59, 255], extensionStart := by decide, extensionFree := by decide }

def oddlyExtended : FramedBody := .chunked [oddChunk] (by decide)

/-- Bodies over the limit that are refused for another reason. -/
theorem overlong_unreported :
    (uncountable.FramedBy uncountableHead.fields ∧
      ({} : Limits).maxResponseBytes < uncountable.payload.length ∧
      (readHttpResponse ({} : Limits)
          ((uncountableHead.encode ++ uncountable.encode).map Item.byte)).1 =
        .error (parseErr "invalid content-length in response")) ∧
      oddlyExtended.FramedBy chunkedHead.fields ∧ oddlyExtended.Countable ∧
      4 < oddlyExtended.payload.length ∧
      (readHttpResponse ({ maxResponseBytes := 4 } : Limits)
          ((chunkedHead.encode ++ oddlyExtended.encode).map Item.byte)).1 =
        .error (parseErr "invalid chunk size line") := by
  have length : uncountable.payload.length = usizeLimit := List.length_replicate
  refine ⟨⟨⟨by decide, by decide, ?_⟩, ?_, ?_⟩, ⟨by decide, "Chunked".toList, ?_, by decide⟩,
    ?_, by decide, ?_⟩
  · have values : fieldValues uncountableHead.fields "content-length".toList =
        ["18446744073709551616".toList] := by decide
    rw [values, List.length_replicate]
    intro value member
    obtain rfl := List.mem_singleton.mp member
    refine ⟨by decide, by decide, ?_⟩
    decide +kernel
  · rw [length]
    decide
  · have noMode : bodyMode uncountableHead.fields uncountableHead.status =
        .error (parseErr "invalid content-length in response") := by
      decide +kernel
    have content : ByteStream.items
        ((uncountableHead.encode ++ uncountable.encode).map Item.byte) =
          uncountableHead.encode.map .byte ++ uncountable.encode.map .byte := by
      rw [items_content, List.map_append]
    exact readHttpResponse_unframed uncountableHead.isHead (by decide)
      uncountableHead.parseHeaderFields uncountableHead.parseStatusCode noMode content
  · decide +kernel
  · intro chunk member
    obtain rfl := List.mem_singleton.mp member
    decide
  · decide +kernel

end Mzani
