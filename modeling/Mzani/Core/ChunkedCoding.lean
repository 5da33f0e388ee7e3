import Mzani.Core.MessageHead

/-!
# The chunked coding

Bodies in the chunked coding as a sender writes them, and the chunked reader
on them: it gives back the payload, or refuses the body, and in both cases
never reads past its end.
-/

namespace Mzani

open Support

/-- The part of a size line before the extension. -/
theorem firstPiece_of_line {token text : Text} {extension : Bytes}
    (plain : ∀ char ∈ token, (toDigit 16 char).isSome ∨ IsBlank char)
    (starts : ∀ byte ∈ extension.head?, byte = 59)
    (decoded : fromUtf8 (toUtf8 token ++ extension) = some text) :
    firstPiece ';' text = token := by
  have wire := toUtf8_of_fromUtf8 decoded
  have isPrefix : token <+: text := toUtf8_isPrefix_iff.mp ⟨extension, wire.symm⟩
  obtain ⟨rest, rfl⟩ := isPrefix
  have sameExtension : toUtf8 rest = extension := by
    rw [toUtf8_append] at wire
    exact List.append_cancel_left wire
  have noSemicolon : ∀ char ∈ token, decide (char ≠ ';') = true := by
    intro char member
    rw [decide_eq_true_eq]
    rintro rfl
    rcases plain ';' member with digit | blank
    · exact absurd digit (by decide)
    · exact absurd blank (by decide)
  have extensionDropped : rest.takeWhile (· ≠ ';') = [] := by
    cases rest with
    | nil => rfl
    | cons first rest =>
        have nonempty : extension ≠ [] := by
          rw [← sameExtension]
          intro empty
          have noText : first :: rest = [] := toUtf8_injective empty
          simp at noText
        have starts : toUtf8 [';'] <+: toUtf8 (first :: rest) := by
          rw [sameExtension]
          obtain ⟨byte, bytes, split⟩ := List.exists_cons_of_ne_nil nonempty
          obtain rfl := starts byte (by simp [split])
          rw [split]
          exact ⟨bytes, rfl⟩
        have sameFirst : [';'] <+: first :: rest := toUtf8_isPrefix_iff.mp starts
        obtain rfl : ';' = first := by simpa using sameFirst
        simp
  rw [firstPiece, List.takeWhile_append_of_pos noSemicolon, extensionDropped,
    List.append_nil]

/-- Blanks around hexadecimal digits are trimmed. -/
theorem trim_sizeToken {before digits after : Text}
    (beforeBlank : ∀ char ∈ before, IsBlank char)
    (afterBlank : ∀ char ∈ after, IsBlank char) (all : AllDigits 16 digits) :
    trim (before ++ digits ++ after) = digits := by
  apply trim_padded
  · intro char member
    exact (beforeBlank char member).isWhitespace
  · intro char member
    exact (afterBlank char member).isWhitespace
  · apply trimmed_of_visible
    intro char member
    exact isWhitespace_of_toDigit (all char member)

/-- One chunk: its size in hexadecimal, optional blanks, an extension and the
data.  The last chunk has no data, and the line end after its empty data is
the end of the body. -/
structure Chunk where
  size : Text
  blanks : Text
  extension : Bytes
  data : Bytes
  sizeNonempty : size ≠ []
  sizeDigits : AllDigits 16 size
  sizeValue : digitsValue 16 0 size = data.length
  blanksBlank : ∀ char ∈ blanks, IsBlank char
  extensionStart : ∀ byte ∈ extension.head?, byte = 59
  extensionFree : ∀ byte ∈ extension, byte ≠ 13 ∧ byte ≠ 10

namespace Chunk

def sizeLine (chunk : Chunk) : Bytes :=
  toUtf8 (chunk.size ++ chunk.blanks) ++ chunk.extension

def encode (chunk : Chunk) : Bytes :=
  chunk.sizeLine ++ chunkHeaderEnd ++ (chunk.data ++ chunkHeaderEnd)

theorem sizeLine_free (chunk : Chunk) : 10 ∉ chunk.sizeLine := by
  intro member
  rcases List.mem_append.mp member with inSize | inExtension
  · have newline : '\n' ∈ chunk.size ++ chunk.blanks :=
      mem_of_mem_toUtf8 '\n' (by decide) inSize
    rcases List.mem_append.mp newline with inDigits | inBlanks
    · have digit := chunk.sizeDigits '\n' inDigits
      exact absurd digit (by decide)
    · have blank := chunk.blanksBlank '\n' inBlanks
      exact absurd blank (by decide)
  · exact (chunk.extensionFree 10 inExtension).2 rfl

theorem isLine (chunk : Chunk) : IsLine chunk.sizeLine := by
  refine ⟨List.suffix_append _ _, fun occurs => ?_⟩
  have newline : (10 : UInt8) ∈ (chunk.sizeLine ++ chunkHeaderEnd).dropLast :=
    occurs.subset (by simp [chunkHeaderEnd])
  rw [List.dropLast_append_of_ne_nil (by simp [chunkHeaderEnd])] at newline
  rcases List.mem_append.mp newline with inLine | inEnd
  · exact chunk.sizeLine_free inLine
  · simp [chunkHeaderEnd] at inEnd

/-- The size token of a decoded size line. -/
theorem sizeToken {chunk : Chunk} {text : Text}
    (decoded : fromUtf8 chunk.sizeLine = some text) :
    trim (firstPiece ';' text) = chunk.size := by
  have plain : ∀ char ∈ chunk.size ++ chunk.blanks,
      (toDigit 16 char).isSome ∨ IsBlank char := by
    intro char member
    rcases List.mem_append.mp member with inDigits | inBlanks
    · exact Or.inl (chunk.sizeDigits char inDigits)
    · exact Or.inr (chunk.blanksBlank char inBlanks)
  rw [firstPiece_of_line plain chunk.extensionStart decoded]
  have trimmed : trim ([] ++ chunk.size ++ chunk.blanks) = chunk.size :=
    trim_sizeToken (by simp) chunk.blanksBlank chunk.sizeDigits
  rwa [List.nil_append] at trimmed

/-- The size is read as the number of data bytes, if it fits a `usize`. -/
theorem parse_size (chunk : Chunk) (value : Nat) :
    fromStrRadix usizeLimit 16 chunk.size = some value ↔
      chunk.data.length = value ∧ value < usizeLimit := by
  rw [fromStrRadix_eq_some_iff (by decide) (by decide) chunk.sizeNonempty
    chunk.sizeDigits, chunk.sizeValue]

end Chunk

/-! ## The chunked loop on chunks -/

/-- One pass of the chunked loop over a size line that can be read. -/
theorem readChunkedLoop_size {maxBytes size : Nat} {body line : Bytes} {text : Text}
    {content rest : List Item} (read : readLine content = (.ok line, rest))
    (decoded : fromUtf8 line = some text)
    (parsed : fromStrRadix usizeLimit 16 (trim (firstPiece ';' text)) = some size) :
    readChunkedLoop maxBytes body content =
      if size = 0 then (readLine >>= fun _ => pure body) rest
      else if maxBytes < body.length + size then (.error .bodyTooLarge, rest)
      else (do
        let chunk ← readFull size
        readExactDelimiter chunkHeaderEnd
        readChunkedLoop maxBytes (body ++ chunk.val)) rest := by
  rw [readChunkedLoop, Reading.bind_of_ok read]
  simp only [decoded, parsed]
  by_cases last : size = 0
  · rw [dif_pos last, if_pos last]
  · rw [dif_neg last, if_neg last]
    by_cases full : maxBytes < body.length + size
    · rw [dif_pos full, if_pos full]
      rfl
    · rw [dif_neg full, if_neg full]

theorem Chunk.encode_content (chunk : Chunk) (tail : List Item) :
    chunk.encode.map Item.byte ++ tail =
      (chunk.sizeLine ++ chunkHeaderEnd).map .byte ++
        (chunk.data.map .byte ++ (chunkHeaderEnd.map .byte ++ tail)) := by
  simp [Chunk.encode]

/-- The reader takes the line for the size line of a chunk of this size. -/
def ReadsSize (line : Bytes) (size : Nat) : Prop :=
  line.length ≤ 8191 ∧ ∃ text, fromUtf8 line = some text ∧
    fromStrRadix usizeLimit 16 (trim (firstPiece ';' text)) = some size

/-- The data of a chunk are appended to the body. -/
theorem readChunkedLoop_data {maxBytes : Nat} {body line data : Bytes}
    (isLine : IsLine line) (reads : ReadsSize line data.length) (more : data ≠ [])
    (fits : body.length + data.length ≤ maxBytes) (tail : List Item) :
    readChunkedLoop maxBytes body ((line ++ chunkHeaderEnd).map .byte ++
        (data.map .byte ++ (chunkHeaderEnd.map .byte ++ tail))) =
      readChunkedLoop maxBytes (body ++ data) tail := by
  obtain ⟨short, text, decoded, parsed⟩ := reads
  have read := readLine_line isLine short
    (data.map .byte ++ (chunkHeaderEnd.map .byte ++ tail))
  have positive : data.length ≠ 0 := by simpa using more
  rw [readChunkedLoop_size read decoded parsed, if_neg positive, if_neg (by omega)]
  rw [Reading.bind_of_ok (readFull_bytes rfl _),
    Reading.bind_of_ok (readExactDelimiter_bytes chunkHeaderEnd tail)]

/-- After the size line of the last chunk, one more line is read. -/
theorem readChunkedLoop_end {maxBytes : Nat} {body line : Bytes} (isLine : IsLine line)
    (reads : ReadsSize line 0) (tail : List Item) :
    readChunkedLoop maxBytes body ((line ++ chunkHeaderEnd).map .byte ++ tail) =
      (readLine >>= fun _ => pure body) tail := by
  obtain ⟨short, text, decoded, parsed⟩ := reads
  rw [readChunkedLoop_size (readLine_line isLine short tail) decoded parsed, if_pos rfl]

theorem Chunk.readsSize {chunk : Chunk} {text : Text}
    (decoded : fromUtf8 chunk.sizeLine = some text)
    (short : chunk.sizeLine.length ≤ 8191) (small : chunk.data.length < usizeLimit) :
    ReadsSize chunk.sizeLine chunk.data.length := by
  refine ⟨short, text, decoded, ?_⟩
  rw [chunk.sizeToken decoded]
  exact (chunk.parse_size chunk.data.length).mpr ⟨rfl, small⟩

theorem readChunkedLoop_chunk {chunk : Chunk} {maxBytes : Nat} {body : Bytes}
    {text : Text} (decoded : fromUtf8 chunk.sizeLine = some text)
    (short : chunk.sizeLine.length ≤ 8191) (more : chunk.data ≠ [])
    (fits : body.length + chunk.data.length ≤ maxBytes) (small : maxBytes < usizeLimit)
    (tail : List Item) :
    readChunkedLoop maxBytes body (chunk.encode.map .byte ++ tail) =
      readChunkedLoop maxBytes (body ++ chunk.data) tail := by
  rw [chunk.encode_content]
  exact readChunkedLoop_data chunk.isLine (chunk.readsSize decoded short (by omega)) more
    fits tail

private theorem readLine_empty (tail : List Item) :
    (readLine : ReadResult (List Item) Bytes) (chunkHeaderEnd.map .byte ++ tail) =
      (.ok [], tail) := by
  have isLine : IsLine [] := EndsFirst.self (by simp [chunkHeaderEnd])
  exact readLine_line isLine (by simp) tail

/-- The last chunk ends the body. -/
theorem readChunkedLoop_last {chunk : Chunk} {maxBytes : Nat} {body : Bytes}
    {text : Text} (decoded : fromUtf8 chunk.sizeLine = some text)
    (short : chunk.sizeLine.length ≤ 8191) (last : chunk.data = [])
    (tail : List Item) :
    readChunkedLoop maxBytes body (chunk.encode.map .byte ++ tail) =
      (.ok body, tail) := by
  have reads := chunk.readsSize decoded short (by simp [last, usizeLimit])
  rw [last, List.length_nil] at reads
  rw [chunk.encode_content, readChunkedLoop_end chunk.isLine reads, last, List.map_nil,
    List.nil_append, Reading.bind_of_ok (readLine_empty tail)]
  rfl

/-- Whatever the limits are, a successful reader has read the whole chunk. -/
theorem readChunkedLoop_chunk_ok {chunk : Chunk} {maxBytes : Nat}
    {body result : Bytes} {tail rest : List Item}
    (answer : readChunkedLoop maxBytes body (chunk.encode.map .byte ++ tail) =
      (.ok result, rest)) :
    if chunk.data = [] then rest = tail
    else readChunkedLoop maxBytes (body ++ chunk.data) tail = (.ok result, rest) := by
  rw [chunk.encode_content, readChunkedLoop] at answer
  obtain ⟨line, afterLine, read, answer⟩ := Reading.bind_eq_ok_iff.mp answer
  obtain ⟨rfl, rfl⟩ := readLine_ok chunk.isLine read
  cases decoded : fromUtf8 chunk.sizeLine with
  | none => simp [decoded] at answer
  | some text =>
      simp only [decoded, chunk.sizeToken decoded] at answer
      cases parsed : fromStrRadix usizeLimit 16 chunk.size with
      | none => simp [parsed] at answer
      | some size =>
          obtain ⟨rfl, _⟩ := (chunk.parse_size size).mp parsed
          simp only [parsed] at answer
          by_cases last : chunk.data = []
          · rw [dif_pos (by simp [last]), last, List.map_nil, List.nil_append,
              Reading.bind_of_ok (readLine_empty tail)] at answer
            rw [if_pos last]
            exact (congrArg Prod.snd answer).symm
          · rw [dif_neg (by simpa using last)] at answer
            rw [if_neg last]
            by_cases full : maxBytes < body.length + chunk.data.length
            · simp [full] at answer
            · rw [dif_neg full, Reading.bind_of_ok (readFull_bytes rfl _),
                Reading.bind_of_ok (readExactDelimiter_bytes chunkHeaderEnd tail)]
                at answer
              exact answer

/-! ## Chunked bodies -/

/-- A body in the chunked coding, without trailers. -/
structure ChunkedBody where
  chunks : List Chunk
  last : Chunk
  chunksNonempty : ∀ chunk ∈ chunks, chunk.data ≠ []
  lastEmpty : last.data = []

namespace ChunkedBody

def payload (body : ChunkedBody) : Bytes :=
  body.chunks.flatMap Chunk.data

def encode (body : ChunkedBody) : Bytes :=
  body.chunks.flatMap Chunk.encode ++ body.last.encode

/-- Every size line is text and short enough for the line limit. -/
def Readable (body : ChunkedBody) : Prop :=
  ∀ chunk ∈ body.chunks ++ [body.last],
    (fromUtf8 chunk.extension).isSome ∧ chunk.sizeLine.length ≤ 8191

instance : DecidablePred Readable := fun body =>
  inferInstanceAs (Decidable (∀ chunk ∈ body.chunks ++ [body.last],
    (fromUtf8 chunk.extension).isSome ∧ chunk.sizeLine.length ≤ 8191))

end ChunkedBody

theorem Chunk.decoded {chunk : Chunk}
    (readable : (fromUtf8 chunk.extension).isSome) :
    ∃ text, fromUtf8 chunk.sizeLine = some text := by
  obtain ⟨extension, decoded⟩ := Option.isSome_iff_exists.mp readable
  refine ⟨chunk.size ++ chunk.blanks ++ extension, ?_⟩
  rw [Chunk.sizeLine, ← toUtf8_of_fromUtf8 decoded, ← toUtf8_append, fromUtf8_toUtf8]

private theorem readChunkedLoop_chunks {chunks : List Chunk} {maxBytes : Nat}
    {body : Bytes} (nonempty : ∀ chunk ∈ chunks, chunk.data ≠ [])
    (readable : ∀ chunk ∈ chunks,
      (fromUtf8 chunk.extension).isSome ∧ chunk.sizeLine.length ≤ 8191)
    (fits : body.length + (chunks.flatMap Chunk.data).length ≤ maxBytes)
    (small : maxBytes < usizeLimit) (tail : List Item) :
    readChunkedLoop maxBytes body
        ((chunks.flatMap Chunk.encode).map .byte ++ tail) =
      readChunkedLoop maxBytes (body ++ chunks.flatMap Chunk.data) tail := by
  induction chunks generalizing body with
  | nil => simp
  | cons chunk chunks induction =>
      obtain ⟨decodable, short⟩ := readable chunk (by simp)
      obtain ⟨text, decoded⟩ := Chunk.decoded decodable
      rw [List.flatMap_cons, List.length_append] at fits
      rw [List.flatMap_cons, List.map_append, List.append_assoc,
        readChunkedLoop_chunk decoded short (nonempty chunk (by simp)) (by omega) small,
        induction (fun other member => nonempty other (List.mem_cons_of_mem _ member))
          (fun other member => readable other (List.mem_cons_of_mem _ member))
          (by rw [List.length_append]; omega),
        List.flatMap_cons, List.append_assoc]

/-- The payload is read, and nothing after the body. -/
theorem readChunkedBody_encode {body : ChunkedBody} {maxBytes : Nat}
    (readable : body.Readable) (fits : body.payload.length ≤ maxBytes)
    (small : maxBytes < usizeLimit) (tail : List Item) :
    readChunkedBody maxBytes (body.encode.map .byte ++ tail) =
      (.ok body.payload, tail) := by
  obtain ⟨decodable, short⟩ := readable body.last (by simp)
  obtain ⟨text, decoded⟩ := Chunk.decoded decodable
  rw [readChunkedBody, ChunkedBody.encode, List.map_append, List.append_assoc,
    readChunkedLoop_chunks body.chunksNonempty
      (fun chunk member => readable chunk (List.mem_append_left _ member))
      (by simpa [ChunkedBody.payload] using fits) small,
    readChunkedLoop_last decoded short body.lastEmpty]
  rfl

private theorem readChunkedLoop_chunks_ok {chunks : List Chunk} {maxBytes : Nat}
    {body result : Bytes} {tail rest : List Item}
    (nonempty : ∀ chunk ∈ chunks, chunk.data ≠ [])
    (answer : readChunkedLoop maxBytes body
      ((chunks.flatMap Chunk.encode).map .byte ++ tail) = (.ok result, rest)) :
    readChunkedLoop maxBytes (body ++ chunks.flatMap Chunk.data) tail =
      (.ok result, rest) := by
  induction chunks generalizing body with
  | nil => simpa using answer
  | cons chunk chunks induction =>
      rw [List.flatMap_cons, List.map_append, List.append_assoc] at answer
      have afterChunk := readChunkedLoop_chunk_ok answer
      rw [if_neg (nonempty chunk (by simp))] at afterChunk
      rw [List.flatMap_cons, ← List.append_assoc]
      exact induction (fun other member =>
        nonempty other (List.mem_cons_of_mem _ member)) afterChunk

/-- Whatever the limits are, a successful reader has read the whole body. -/
theorem readChunkedBody_encode_ok {body : ChunkedBody} {maxBytes : Nat}
    {result : Bytes} {tail rest : List Item}
    (answer : readChunkedBody maxBytes (body.encode.map .byte ++ tail) =
      (.ok result, rest)) : rest = tail := by
  rw [readChunkedBody, ChunkedBody.encode, List.map_append, List.append_assoc]
    at answer
  have atLast := readChunkedLoop_chunks_ok body.chunksNonempty answer
  have ended := readChunkedLoop_chunk_ok atLast
  rwa [if_pos body.lastEmpty] at ended

/-- A body that is cut off anywhere is refused. -/
theorem readChunkedBody_truncated {body : ChunkedBody} (maxBytes : Nat)
    {pre : Bytes} {tail : List Item} (isPrefix : pre <+: body.encode)
    (strict : pre ≠ body.encode) (cutOff : CutOff tail) :
    ∃ error, (readChunkedBody maxBytes (pre.map .byte ++ tail)).1 =
      .error error := by
  apply Local.truncated (local_readChunkedLoop maxBytes []) _ isPrefix strict cutOff
  intro result rest answer
  rw [← List.append_nil (body.encode.map Item.byte)] at answer
  exact readChunkedBody_encode_ok answer

end Mzani
