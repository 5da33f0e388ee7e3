import Mzani.Core.ResponseForwarding

/-!
# Cut-off responses

A response that marks its own end is refused when the stream ends or fails
before it, unless it is chunked and the chunked coding is not recognised.
-/

namespace Mzani

open Support

/-! ## Responses that mark their own end -/

/-- The values of all fields with this name, letter case ignored. -/
def fieldValues (fields : HeaderFields) (name : Text) : List Text :=
  (fields.filter fun field => eqIgnoreAsciiCase field.1 name).map (·.2)

theorem headerField_eq_head? (fields : HeaderFields) (name : Text) :
    headerField fields name = (fieldValues fields name).head? := by
  simp [headerField, fieldValues]

theorem headerField_eq_none {fields : HeaderFields} {name : Text}
    (noValues : fieldValues fields name = []) : headerField fields name = none := by
  rw [headerField_eq_head?, noValues, List.head?_nil]

/-- Without a coding, the first of the length fields counts. -/
theorem bodyMode_of_lengths {fields : HeaderFields} {status length : Nat} {mode : BodyMode}
    (hasBody : hasNoBody status = false)
    (noCoding : fieldValues fields "transfer-encoding".toList = [])
    (hasLength : fieldValues fields "content-length".toList ≠ [])
    (lengths : ∀ value ∈ fieldValues fields "content-length".toList,
      value ≠ [] ∧ AllDigits 10 value ∧ digitsValue 10 0 value = length) :
    bodyMode fields status = .ok mode ↔ length < usizeLimit ∧ mode = .fixed length := by
  obtain ⟨value, others, values⟩ := List.exists_cons_of_ne_nil hasLength
  have found : headerField fields "content-length".toList = some value := by
    rw [headerField_eq_head?, values, List.head?_cons]
  have isFirst : value ∈ fieldValues fields "content-length".toList := by
    rw [values]
    exact List.mem_cons_self
  obtain ⟨nonempty, digits, exactLength⟩ := lengths value isFirst
  have other := not_firstIsChunked_of_none (headerField_eq_none noCoding)
  have parsed_iff : ∀ read, parseUnsigned usizeLimit value = some read ↔
      digitsValue 10 0 value = read ∧ read < usizeLimit := fun read =>
    fromStrRadix_eq_some_iff (by decide) (by decide) nonempty digits
  constructor
  · intro hasMode
    cases parsed : parseUnsigned usizeLimit value with
    | none =>
        rw [bodyMode_length hasBody other, found] at hasMode
        simp [parsed] at hasMode
    | some read =>
        rw [bodyMode_fixed hasBody other found parsed] at hasMode
        obtain ⟨same, countable⟩ := (parsed_iff read).mp parsed
        obtain rfl := exactLength.symm.trans same
        exact ⟨countable, (Except.ok.inj hasMode).symm⟩
  · rintro ⟨countable, rfl⟩
    exact bodyMode_fixed hasBody other found
      ((parsed_iff length).mpr ⟨exactLength, countable⟩)

/-- The last of the codings that a list field names. -/
def finalCoding (value : Text) : Text :=
  trim (value.rtakeWhile (· ≠ ','))

/-- How the fields of a response frame its body: by its status, by the final
transfer coding, or by its length.  A sender that names transfer codings
gives no length. -/
inductive SelfDelimited (head : ResponseHead) : Bytes → Prop where
  | bodyless (noBody : hasNoBody head.status = true) : SelfDelimited head []
  | chunked (body : ChunkedBody) (hasBody : hasNoBody head.status = false)
      (codings : ∃ value,
        (fieldValues head.fields "transfer-encoding".toList).getLast? = some value ∧
          eqIgnoreAsciiCase (finalCoding value) "chunked".toList = true)
      (noLength : fieldValues head.fields "content-length".toList = []) :
      SelfDelimited head body.encode
  | fixed (body : Bytes) (hasBody : hasNoBody head.status = false)
      (noCoding : fieldValues head.fields "transfer-encoding".toList = [])
      (hasLength : fieldValues head.fields "content-length".toList ≠ [])
      (lengths : ∀ value ∈ fieldValues head.fields "content-length".toList,
        value ≠ [] ∧ AllDigits 10 value ∧ digitsValue 10 0 value = body.length) :
      SelfDelimited head body

/-- Every strict prefix of the message, in every split and cut off by the end
of the stream or by an error, is refused. -/
def RefusesShortened (message : Bytes) : Prop :=
  ∀ ⦃σ : Type⦄ [ByteStream σ] (limits : Limits) (stream : σ) (pre : Bytes)
    (tail : List Item), pre <+: message → pre ≠ message → CutOff tail →
      ByteStream.items stream = pre.map .byte ++ tail →
        ∃ error, (readHttpResponse limits stream).1 = .error error

/-! ## Cuts in the head and in the body -/

/-- A shortened message that is accepted has its whole head, and its body
reader has accepted a strict prefix of the body. -/
theorem readHttpResponse_shortened {σ : Type} [ByteStream σ] {limits : Limits}
    {stream : σ} {head body pre out : Bytes} {tail : List Item} (isHead : IsHead head)
    (isPrefix : pre <+: head ++ body) (strict : pre ≠ head ++ body)
    (stops : Stops tail) (content : ByteStream.items stream = pre.map .byte ++ tail)
    (answer : (readHttpResponse limits stream).1 = .ok out) :
    ∃ part fields status mode result, ∃ reader : PrefixReader σ,
      part <+: body ∧ part ≠ body ∧
        parseHeaderFields head = .ok fields ∧ parseStatusCode head = .ok status ∧
        bodyMode fields status = .ok mode ∧
        ByteStream.items reader = part.map .byte ++ tail ∧
        (readBody mode limits.maxResponseBytes reader).1 = .ok result := by
  obtain ⟨found, bodyPrefix, rest, fields, status, mode, result, scanned, parsedFields,
    parsedStatus, hasMode, bodyRead, _⟩ := readHttpResponse_ok answer
  have wholeHead : head <+: pre := by
    by_contra notWhole
    have inHead : pre <+: head :=
      (List.prefix_or_prefix_of_prefix isPrefix (List.prefix_append head body)).resolve_right
        notWhole
    have strictHead : pre ≠ head := fun same => notWhole (same ▸ List.prefix_rfl)
    obtain ⟨error, failed⟩ := readHeaderBlock_unfinished
      (isHead.free_of_strict_prefix inHead strictHead) content stops
    have impossible := (congrArg Prod.fst scanned).symm.trans failed
    simp at impossible
  obtain ⟨part, rfl⟩ := wholeHead
  rw [List.map_append, List.append_assoc] at content
  obtain ⟨rfl, split⟩ := readHeaderBlock_head isHead content scanned
  refine ⟨part, fields, status, mode, result, PrefixReader.new bodyPrefix rest,
    (List.prefix_append_right_inj found).mp isPrefix, ?_, parsedFields, parsedStatus,
    hasMode, ?_, bodyRead⟩
  · rintro rfl
    exact strict rfl
  · rw [PrefixReader.items_new, split]

/-- A head that is not text is refused. -/
theorem refusesShortened_not_text {head : Bytes} (isHead : IsHead head)
    (notText : fromUtf8 head = none) (body : Bytes) :
    RefusesShortened (head ++ body) := by
  intro σ _ limits stream pre tail isPrefix strict cutOff content
  cases answer : (readHttpResponse limits stream).1 with
  | error error => exact ⟨error, rfl⟩
  | ok out =>
      obtain ⟨_, _, _, _, _, _, _, _, parsedFields, _⟩ :=
        readHttpResponse_shortened isHead isPrefix strict cutOff.stops content answer
      obtain ⟨_, _, _, decoded, _⟩ := parseHeaderFields_eq_ok_iff.mp parsedFields
      simp [notText] at decoded

/-- A strict prefix of a body that the chosen mode delimits is refused. -/
theorem readBody_shortened {σ : Type} [ByteStream σ] {head : ResponseHead}
    {body part : Bytes} {mode : BodyMode} {maxBytes : Nat} {tail : List Item}
    {reader : σ} (delimited : SelfDelimited head body)
    (recognised : hasNoBody head.status = true ∨
      ∀ value ∈ headerField head.fields "transfer-encoding".toList,
        eqIgnoreAsciiCase value "chunked".toList = true)
    (hasMode : bodyMode head.fields head.status = .ok mode)
    (isPrefix : part <+: body) (strict : part ≠ body) (cutOff : CutOff tail)
    (content : ByteStream.items reader = part.map .byte ++ tail) :
    ∃ error, (readBody mode maxBytes reader).1 = .error error := by
  cases delimited with
  | bodyless noBody => exact (strict (List.prefix_nil.mp isPrefix)).elim
  | chunked body hasBody codings noLength =>
      obtain ⟨last, isLast, _⟩ := codings
      have nonempty : fieldValues head.fields "transfer-encoding".toList ≠ [] := by
        intro empty
        rw [empty] at isLast
        cases isLast
      obtain ⟨value, others, values⟩ := List.exists_cons_of_ne_nil nonempty
      have first : headerField head.fields "transfer-encoding".toList = some value := by
        rw [headerField_eq_head?, values, List.head?_cons]
      have isChunked : eqIgnoreAsciiCase value "chunked".toList = true := by
        rcases recognised with noBody | recognised
        · simp [hasBody] at noBody
        · exact recognised value first
      rw [bodyMode_chunked hasBody (firstIsChunked_of_headerField first isChunked)] at hasMode
      obtain rfl := Except.ok.inj hasMode
      obtain ⟨error, refused⟩ :=
        readChunkedBody_truncated maxBytes isPrefix strict cutOff
      exact ⟨error, (readChunkedBody_content content).trans refused⟩
  | fixed body hasBody noCoding hasLength lengths =>
      obtain ⟨_, rfl⟩ := (bodyMode_of_lengths hasBody noCoding hasLength lengths).mp hasMode
      have short : part.length < body.length := by
        by_contra long
        exact strict (isPrefix.eq_of_length_le (Nat.le_of_not_lt long))
      exact readFixedBody_short short cutOff.stops content

/-- Without a recognised coding, a head alone passes for a whole response. -/
theorem readHttpResponse_unrecognised {σ : Type} [ByteStream σ] {limits : Limits}
    {head : ResponseHead} {stream : σ} (hasBody : hasNoBody head.status = false)
    (noLength : fieldValues head.fields "content-length".toList = [])
    (unrecognised : ∀ value ∈ headerField head.fields "transfer-encoding".toList,
      eqIgnoreAsciiCase value "chunked".toList = false)
    (fits : head.encode.length ≤ limits.maxHeaderBytes + 1)
    (content : ByteStream.items stream = head.encode.map .byte) :
    (readHttpResponse limits stream).1 =
      .ok (forwardedHead head.statusLine head.fields 0) := by
  have notChunked : ¬FirstIsChunked head.fields := by
    rw [FirstIsChunked, Bool.not_eq_true, Option.any_eq_false]
    exact unrecognised
  obtain ⟨reader, readerContent, answer⟩ := readHttpResponse_of_head head.isHead fits
    head.parseHeaderFields head.parseStatusCode
    (bodyMode_untilEof hasBody notChunked (headerField_eq_none noLength))
    (content.trans (List.append_nil _).symm)
  have empty : ([] : Bytes).length ≤ limits.maxResponseBytes := Nat.zero_le _
  obtain ⟨rest, bodyRead, _⟩ := readUntilEof_bytes empty readerContent
  have bodyAnswer : (readBody .untilEof limits.maxResponseBytes reader).1 = .ok [] :=
    congrArg Prod.fst bodyRead
  rw [answer, bodyAnswer]
  exact (encodeForwardedResponse_of_body hasBody).mpr
    ⟨_, head.statusLine, fromUtf8_encodeHead _,
      firstLine_encodeHead _ head.newlineFree, by simp⟩

theorem ChunkedBody.encode_ne_nil (body : ChunkedBody) : body.encode ≠ [] := by
  simp [ChunkedBody.encode, Chunk.encode, chunkHeaderEnd]

/-- Cut-off responses are refused, except where the body is chunked and the
first `Transfer-Encoding` field says more than `chunked`. -/
theorem refusesShortened_iff {head : ResponseHead} {body : Bytes}
    (delimited : SelfDelimited head body) :
    (RefusesShortened (head.encode ++ body) ↔
      hasNoBody head.status = true ∨
        ∀ value ∈ headerField head.fields "transfer-encoding".toList,
          eqIgnoreAsciiCase value "chunked".toList = true) ∧
      ∀ {unreadable rest : Bytes}, IsHead unreadable → fromUtf8 unreadable = none →
        RefusesShortened (unreadable ++ rest) := by
  refine ⟨⟨fun refuses => ?_, fun recognised => ?_⟩,
    fun {unreadable rest} isHead notText => refusesShortened_not_text isHead notText rest⟩
  · cases delimited with
    | bodyless noBody => exact Or.inl noBody
    | fixed body hasBody noCoding hasLength lengths =>
        refine Or.inr fun value found => ?_
        rw [headerField_eq_head?, noCoding] at found
        cases found
    | chunked body hasBody codings noLength =>
        refine Or.inr fun value found => ?_
        by_contra notChunked
        -- the stream that ends right after the head
        have unrecognised : ∀ other ∈ headerField head.fields "transfer-encoding".toList,
            eqIgnoreAsciiCase other "chunked".toList = false := by
          intro other foundOther
          obtain rfl := Option.some.inj (found.symm.trans foundOther)
          exact Bool.eq_false_iff.mpr notChunked
        have accepted : (readHttpResponse Limits.largest (head.encode.map Item.byte)).1 =
            .ok (forwardedHead head.statusLine head.fields 0) :=
          readHttpResponse_unrecognised hasBody noLength unrecognised head.countable rfl
        have strict : head.encode ≠ head.encode ++ body.encode := fun same =>
          body.encode_ne_nil (List.append_right_eq_self.mp same.symm)
        obtain ⟨error, refused⟩ := refuses Limits.largest (head.encode.map Item.byte)
          head.encode [] (List.prefix_append _ _) strict trivial (List.append_nil _).symm
        have impossible := accepted.symm.trans refused
        simp at impossible
  · intro σ _ limits stream pre tail isPrefix strict cutOff content
    cases answer : (readHttpResponse limits stream).1 with
    | error error => exact ⟨error, rfl⟩
    | ok out =>
        obtain ⟨part, fields, status, mode, result, reader, partPrefix, partStrict,
          parsedFields, parsedStatus, hasMode, readerContent, bodyRead⟩ :=
          readHttpResponse_shortened head.isHead isPrefix strict cutOff.stops content answer
        obtain rfl := Except.ok.inj (head.parseHeaderFields.symm.trans parsedFields)
        obtain rfl := Except.ok.inj (head.parseStatusCode.symm.trans parsedStatus)
        obtain ⟨error, refused⟩ := readBody_shortened delimited recognised hasMode
          partPrefix partStrict cutOff readerContent
        have impossible := bodyRead.symm.trans refused
        simp at impossible

def lengthLine : FieldLine :=
  .plain "Content-Length".toList "5".toList (by decide) (by decide) (by decide)
    (by decide) (by decide)

def lengthHead : ResponseHead := okHead [lengthLine, serverLine] (by decide)

theorem refusesShortened_length :
    RefusesShortened (lengthHead.encode ++ toUtf8 "hello".toList) := by
  have delimited : SelfDelimited lengthHead (toUtf8 "hello".toList) :=
    .fixed _ (by decide) (by decide) (by decide) (by decide)
  exact (refusesShortened_iff delimited).1.mpr (Or.inr (by decide))

def gzipLine : FieldLine :=
  .plain "Transfer-Encoding".toList "gzip, chunked".toList (by decide) (by decide)
    (by decide) (by decide) (by decide)

def gzipHead : ResponseHead := okHead [gzipLine] (by decide)

set_option maxRecDepth 4000 in
/-- A chunked body under two codings, cut off in its first chunk: the chunked
text passes for the whole payload. -/
theorem gzipChunked_shortened :
    SelfDelimited gzipHead helloBody.encode ∧
      toUtf8 "5;a=1\r\nhel".toList <+: helloBody.encode ∧
      toUtf8 "5;a=1\r\nhel".toList ≠ helloBody.encode ∧
      (readHttpResponse ({} : Limits)
        ((gzipHead.encode ++ toUtf8 "5;a=1\r\nhel".toList).map Item.byte)).1 =
          .ok (toUtf8 "HTTP/1.1 200 OK\r\nContent-Length: 10\r\n\r\n5;a=1\r\nhel".toList) ∧
      ¬RefusesShortened (gzipHead.encode ++ helloBody.encode) := by
  have delimited : SelfDelimited gzipHead helloBody.encode :=
    .chunked helloBody (by decide) ⟨"gzip, chunked".toList, by decide, by decide⟩ (by decide)
  have isPrefix : toUtf8 "5;a=1\r\nhel".toList <+: helloBody.encode := by decide
  have strict : toUtf8 "5;a=1\r\nhel".toList ≠ helloBody.encode := by decide
  have accepted : (readHttpResponse ({} : Limits)
      ((gzipHead.encode ++ toUtf8 "5;a=1\r\nhel".toList).map Item.byte)).1 =
        .ok (toUtf8 "HTTP/1.1 200 OK\r\nContent-Length: 10\r\n\r\n5;a=1\r\nhel".toList) := by
    decide +kernel
  refine ⟨delimited, isPrefix, strict, accepted, fun refuses => ?_⟩
  obtain ⟨error, refused⟩ := refuses {}
    ((gzipHead.encode ++ toUtf8 "5;a=1\r\nhel".toList).map Item.byte) _ []
    ((List.prefix_append_right_inj _).mpr isPrefix)
    (fun same => strict (List.append_cancel_left same)) trivial (List.append_nil _).symm
  have impossible := accepted.symm.trans refused
  simp at impossible

end Mzani
