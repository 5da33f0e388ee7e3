import Mzani.Core.Request

/-!
# HTTP responses

Reading a backend response with its body framing, and rebuilding it with an
explicit `Content-Length`.
-/

namespace Mzani

open Support

/-- `CHUNK_HEADER_END` -/
def chunkHeaderEnd : Bytes := [13, 10]

inductive BodyMode where
  | fixed (length : Nat)
  | chunked
  | untilEof
  deriving DecidableEq, Repr

/-- `matches!(status, 100..=199 | 204 | 304)` -/
def hasNoBody (status : Nat) : Bool :=
  (100 ≤ status && status ≤ 199) || status == 204 || status == 304

def parseStatusCode (rawHead : Bytes) : MzaniResult Nat :=
  match fromUtf8 rawHead with
  | none => .error (parseErr "invalid utf-8 in status line")
  | some head =>
      match firstLine head with
      | none => .error (parseErr "missing status line")
      | some statusLine =>
          match splitWhitespace statusLine with
          | [] => .error (parseErr "missing http version")
          | [_] => .error (parseErr "missing status code")
          | _version :: code :: _ =>
              match parseUnsigned u16Limit code with
              | some status => .ok status
              | none => .error (parseErr "invalid status code")

def bodyMode (headers : HeaderFields) (status : Nat) : MzaniResult BodyMode :=
  if hasNoBody status then .ok (.fixed 0)
  else if (headerField headers "transfer-encoding".toList).any
      (eqIgnoreAsciiCase · "chunked".toList) then .ok .chunked
  else
    match headerField headers "content-length".toList with
    | some value =>
        match parseUnsigned usizeLimit value with
        | some length => .ok (.fixed length)
        | none => .error (parseErr "invalid content-length in response")
    | none => .ok .untilEof

/-- The fields that forwarding replaces. -/
def isFramingName (name : Text) : Bool :=
  eqIgnoreAsciiCase name "transfer-encoding".toList ||
    eqIgnoreAsciiCase name "content-length".toList

/-- `format!("{name}: {value}")` -/
def formatField (field : Text × Text) : Text :=
  field.1 ++ ':' :: ' ' :: field.2

/-- `format!("Content-Length: {}", body.len())` -/
def formatContentLength (length : Nat) : Text :=
  formatField ("Content-Length".toList, Nat.toDigits 10 length)

/-- Rebuilds a response with an explicit `Content-Length`. -/
def encodeForwardedResponse (rawHead : Bytes) (status : Nat)
    (headers : HeaderFields) (body : Bytes) : MzaniResult Bytes :=
  if hasNoBody status then .ok rawHead
  else
    match fromUtf8 rawHead with
    | none => .error (parseErr "invalid utf-8 in response")
    | some head =>
        match firstLine head with
        | none => .error (parseErr "missing status line")
        | some statusLine =>
            let lines := statusLine ::
              ((headers.filter fun field => !isFramingName field.1).map
                formatField ++ [formatContentLength body.length])
            .ok (toUtf8 (joinPair '\r' '\n' lines) ++ headerEnd ++ body)

/-! ## Reading the body -/

/-- A reader that delivers `pre` from `offset` on and then what `inner`
delivers. -/
structure PrefixReader (σ : Type) where
  pre : Bytes
  offset : Nat
  inner : σ

namespace PrefixReader

variable {σ : Type}

def new (pre : Bytes) (inner : σ) : PrefixReader σ :=
  { pre, offset := 0, inner }

def read [Read σ] (size : Nat) (reader : PrefixReader σ) :
    Except IoError Bytes × PrefixReader σ :=
  if reader.offset < reader.pre.length then
    let available := reader.pre.length - reader.offset
    let n := min available size
    (.ok ((reader.pre.drop reader.offset).take n),
      { reader with offset := reader.offset + n })
  else
    let answer := Read.read size reader.inner
    (answer.1, { reader with inner := answer.2 })

instance [Read σ] : Read (PrefixReader σ) where
  read := read
  interrupts reader := Read.interrupts reader.inner
  length_read_le := by
    intro size reader bytes next answer
    unfold read at answer
    split at answer
    · simp only [Prod.mk.injEq, Except.ok.injEq] at answer
      rw [← answer.1, List.length_take]
      omega
    · simp only [Prod.mk.injEq] at answer
      exact Read.length_read_le (Prod.ext answer.1 rfl)
  interrupts_read_le := by
    intro size reader
    unfold read
    split
    · exact Nat.le_refl _
    · exact Read.interrupts_read_le size reader.inner
  interrupts_read_lt := by
    intro size reader error next answer again
    unfold read at answer
    split at answer
    · simp at answer
    · simp only [Prod.mk.injEq] at answer
      rw [← answer.2]
      exact Read.interrupts_read_lt (Prod.ext answer.1 rfl) again

/-- The reader hands over from the over-read bytes to the stream without
losing or repeating a byte. -/
instance [ByteStream σ] : ByteStream (PrefixReader σ) where
  items reader :=
    (reader.pre.drop reader.offset).map .byte ++ ByteStream.items reader.inner
  items_read := by
    intro size reader positive
    by_cases left : reader.offset < reader.pre.length
    · have answer : Read.read size reader =
          (.ok ((reader.pre.drop reader.offset).take
              (min (reader.pre.length - reader.offset) size)),
            { reader with
              offset :=
                reader.offset + min (reader.pre.length - reader.offset) size }) := by
        change read size reader = _
        simp [read, left]
      rw [answer]
      constructor
      · intro empty
        simp only [List.take_eq_nil_iff, List.drop_eq_nil_iff] at empty
        omega
      · simp [← List.append_assoc, ← List.drop_drop]
    · have pastPrefix : reader.pre.drop reader.offset = [] :=
        List.drop_eq_nil_iff.mpr (Nat.le_of_not_lt left)
      have answer : Read.read size reader =
          ((Read.read size reader.inner).1,
            { reader with inner := (Read.read size reader.inner).2 }) := by
        change read size reader = _
        simp [read, left]
      have law := ByteStream.items_read reader.inner positive
      rw [answer]
      cases inner : Read.read size reader.inner with
      | mk outcome rest =>
          rw [inner] at law
          cases outcome <;> simpa [pastPrefix] using law

@[simp] theorem items_new [ByteStream σ] (pre : Bytes) (inner : σ) :
    ByteStream.items (new pre inner) =
      pre.map .byte ++ ByteStream.items inner := rfl

end PrefixReader

section Reading

variable {σ : Type} [Read σ]

/-- The loop of `read_fixed_body`. -/
def readFixedLoop (length maxBytes : Nat) (body : Bytes) :
    ReadResult σ Bytes :=
  if _more : body.length < length then do
    let need := length - body.length
    let take := min need 4096
    let chunk ← readSome take
    if _ended : chunk = [] then
      Reading.fail (parseErr "unexpected end of response body")
    else
      let grown := body ++ chunk
      if maxBytes < grown.length then Reading.fail .bodyTooLarge
      else readFixedLoop length maxBytes grown
  else if length < body.length then
    Reading.fail (parseErr "response body exceeds content-length")
  else pure body
termination_by length - body.length
decreasing_by
  have positive : 0 < chunk.length := List.length_pos_iff.mpr _ended
  simp only [List.length_append]
  omega

def readFixedBody (length maxBytes : Nat) : ReadResult σ Bytes :=
  if maxBytes < length then Reading.fail .bodyTooLarge
  else readFixedLoop length maxBytes []

/-- The loop of `read_until_eof`. -/
def readUntilEofLoop (maxBytes : Nat) (body : Bytes) : ReadResult σ Bytes := do
  let chunk ← readSome 4096
  if _ended : chunk = [] then pure body
  else
    let grown := body ++ chunk
    if _full : maxBytes < grown.length then Reading.fail .bodyTooLarge
    else readUntilEofLoop maxBytes grown
termination_by maxBytes - body.length
decreasing_by
  have positive : 0 < chunk.length := List.length_pos_iff.mpr _ended
  simp only [grown, List.length_append] at _full ⊢
  omega

def readUntilEof (maxBytes : Nat) : ReadResult σ Bytes :=
  readUntilEofLoop maxBytes []

/-- The loop of `read_line`, one byte at a time. -/
def readLineLoop (line : Bytes) : ReadResult σ Bytes := do
  let byte ← readFull 1
  let grown := line ++ byte.val
  if chunkHeaderEnd.isSuffixOf grown then
    pure (grown.take (grown.length - 2))
  else if _long : 8 * 1024 < grown.length then
    Reading.fail (parseErr "chunk metadata line too long")
  else readLineLoop grown
termination_by 8 * 1024 - line.length
decreasing_by
  have _one := byte.property
  simp only [grown, List.length_append] at _long ⊢
  omega

def readLine : ReadResult σ Bytes :=
  readLineLoop []

def readExactDelimiter (delimiter : Bytes) : ReadResult σ Unit := do
  let buf ← readFull delimiter.length
  if buf.val ≠ delimiter then Reading.fail (parseErr "malformed chunked body")
  else pure ()

/-- The loop of `read_chunked_body`.  The size check adds without an upper
end; `saturating_add` gives another answer only for a body and a chunk that
together fill the address space. -/
def readChunkedLoop (maxBytes : Nat) (body : Bytes) : ReadResult σ Bytes := do
  let sizeLine ← readLine
  match fromUtf8 sizeLine with
  | none => Reading.fail (parseErr "invalid chunk size line")
  | some sizeLine =>
      let sizeToken := trim (firstPiece ';' sizeLine)
      match fromStrRadix usizeLimit 16 sizeToken with
      | none => Reading.fail (parseErr "invalid chunk size")
      | some chunkSize =>
          if _last : chunkSize = 0 then do
            let _ ← readLine
            pure body
          else if _full : maxBytes < body.length + chunkSize then
            Reading.fail .bodyTooLarge
          else do
            let chunk ← readFull chunkSize
            readExactDelimiter chunkHeaderEnd
            readChunkedLoop maxBytes (body ++ chunk.val)
termination_by maxBytes - body.length
decreasing_by
  have _filled := chunk.property
  simp only [List.length_append]
  omega

def readChunkedBody (maxBytes : Nat) : ReadResult σ Bytes :=
  readChunkedLoop maxBytes []

def readBody (mode : BodyMode) (maxBytes : Nat) : ReadResult σ Bytes :=
  match mode with
  | .fixed length => readFixedBody length maxBytes
  | .chunked => readChunkedBody maxBytes
  | .untilEof => readUntilEof maxBytes

/-- Run a body reader over a `PrefixReader` that borrows the stream. -/
def withPrefix {α : Type} (bodyPrefix : Bytes)
    (action : ReadResult (PrefixReader σ) α) : ReadResult σ α := fun stream =>
  match action (PrefixReader.new bodyPrefix stream) with
  | (result, reader) => (result, reader.inner)

/-- Reads a complete response, headers and body, and rebuilds it. -/
def readHttpResponse (limits : Limits) : ReadResult σ Bytes := do
  let (rawHead, bodyPrefix) ← readHeaderBlock limits.maxHeaderBytes
  let headers ← Reading.ofExcept (parseHeaderFields rawHead)
  let status ← Reading.ofExcept (parseStatusCode rawHead)
  let mode ← Reading.ofExcept (bodyMode headers status)
  let body ← withPrefix bodyPrefix (readBody mode limits.maxResponseBytes)
  Reading.ofExcept (encodeForwardedResponse rawHead status headers body)

end Reading

end Mzani
