import Mzani.Core.BodyReading
import Mzani.Support.Recorder

/-!
# How much is read

Neither a request nor a response is read without end: whatever a reader
delivers, the header scan stops within one read of its limit, and every pass of
the chunk loop either stops or adds a byte to the body.  Both functions give
the same answer over a recorder as over the reader itself.
-/

namespace Mzani

open Support

/-! ## Over a recorder -/

section

variable {σ τ : Type} [Read σ] [Read τ] {view : σ → τ}

theorem carried_readSome (readerMap : ReaderMap view) (size : Nat) :
    Carried view (readSome size : ReadResult σ Bytes) (readSome size) :=
  (readerMap size).mapError MzaniError.ofIo

theorem carried_readFull (readerMap : ReaderMap view) (need : Nat) :
    Carried view (readFull need : ReadResult σ _) (readFull need) :=
  (Carried.readBuffer (readerMap.readExact need)).mapError MzaniError.ofIo

theorem carried_readHeaderLoop (readerMap : ReaderMap view) (maxHeaderBytes : Nat)
    (buf : Bytes) :
    Carried view (readHeaderLoop maxHeaderBytes buf : ReadResult σ _)
      (readHeaderLoop maxHeaderBytes buf) := by
  induction buf using readHeaderLoop.induct maxHeaderBytes with
  | case1 buf full =>
      rw [readHeaderLoop, readHeaderLoop, dif_pos full, dif_pos full]
      exact Carried.fail _
  | case2 buf within induction =>
      rw [readHeaderLoop, readHeaderLoop, dif_neg within, dif_neg within]
      apply (carried_readSome readerMap 4096).bind
      intro chunk
      by_cases ended : chunk = []
      · simp only [dif_pos ended]
        exact Carried.fail _
      · simp only [dif_neg ended]
        cases findSubslice (buf ++ chunk) headerEnd with
        | none => exact induction chunk ended
        | some endIndex => exact Carried.pure _

theorem carried_readFixedBody (readerMap : ReaderMap view) (length maxBytes : Nat) :
    Carried view (readFixedBody length maxBytes : ReadResult σ Bytes)
      (readFixedBody length maxBytes) := by
  have loop : ∀ body, Carried view (readFixedLoop length maxBytes body : ReadResult σ Bytes)
      (readFixedLoop length maxBytes body) := by
    intro body
    induction body using readFixedLoop.induct length maxBytes with
    | case1 body unfinished induction =>
        rw [readFixedLoop, readFixedLoop, dif_pos unfinished, dif_pos unfinished]
        apply (carried_readSome readerMap _).bind
        intro chunk
        by_cases ended : chunk = []
        · simp only [dif_pos ended]
          exact Carried.fail _
        · simp only [dif_neg ended]
          by_cases full : maxBytes < (body ++ chunk).length
          · simp only [if_pos full]
            exact Carried.fail _
          · simp only [if_neg full]
            exact induction chunk ended
    | case2 body finished exceeds =>
        rw [readFixedLoop, readFixedLoop, dif_neg finished, dif_neg finished,
          if_pos exceeds, if_pos exceeds]
        exact Carried.fail _
    | case3 body finished exact =>
        rw [readFixedLoop, readFixedLoop, dif_neg finished, dif_neg finished,
          if_neg exact, if_neg exact]
        exact Carried.pure _
  unfold readFixedBody
  by_cases large : maxBytes < length
  · rw [if_pos large, if_pos large]
    exact Carried.fail _
  · rw [if_neg large, if_neg large]
    exact loop []

theorem carried_readUntilEofLoop (readerMap : ReaderMap view) (maxBytes : Nat)
    (body : Bytes) :
    Carried view (readUntilEofLoop maxBytes body : ReadResult σ Bytes)
      (readUntilEofLoop maxBytes body) := by
  induction body using readUntilEofLoop.induct maxBytes with
  | case1 body induction =>
      rw [readUntilEofLoop, readUntilEofLoop]
      apply (carried_readSome readerMap 4096).bind
      intro chunk
      by_cases ended : chunk = []
      · simp only [dif_pos ended]
        exact Carried.pure _
      · simp only [dif_neg ended]
        by_cases full : maxBytes < (body ++ chunk).length
        · simp only [dif_pos full]
          exact Carried.fail _
        · simp only [dif_neg full]
          exact induction chunk ended full

theorem carried_readBody (readerMap : ReaderMap view) (mode : BodyMode) (maxBytes : Nat) :
    Carried view (readBody mode maxBytes : ReadResult σ Bytes) (readBody mode maxBytes) := by
  cases mode with
  | fixed length => exact carried_readFixedBody readerMap length maxBytes
  | chunked => exact carried_readChunkedLoop (carried_readFull readerMap) maxBytes []
  | untilEof => exact carried_readUntilEofLoop readerMap maxBytes []

/-- The same over-read bytes before another stream. -/
def PrefixReader.map (view : σ → τ) (reader : PrefixReader σ) : PrefixReader τ :=
  { pre := reader.pre, offset := reader.offset, inner := view reader.inner }

theorem readerMap_prefixReader (readerMap : ReaderMap view) :
    ReaderMap (PrefixReader.map view) := by
  intro size reader
  change PrefixReader.read size (PrefixReader.map view reader) = _
  have inner := readerMap size reader.inner
  by_cases left : reader.offset < reader.pre.length
  · simp [PrefixReader.read, PrefixReader.map, left, Read.read]
  · simp [PrefixReader.read, PrefixReader.map, left, inner, Read.read]

omit [Read σ] [Read τ] in
theorem carried_withPrefix {α : Type} {bodyPrefix : Bytes}
    {action : ReadResult (PrefixReader σ) α} {image : ReadResult (PrefixReader τ) α}
    (carried : Carried (PrefixReader.map view) action image) :
    Carried view (withPrefix bodyPrefix action) (withPrefix bodyPrefix image) := by
  intro stream
  have result := carried (PrefixReader.new bodyPrefix stream)
  change image (PrefixReader.new bodyPrefix (view stream)) = _ at result
  simp only [withPrefix, result]
  rfl

theorem carried_readHttpResponse (readerMap : ReaderMap view) (limits : Limits) :
    Carried view (readHttpResponse limits : ReadResult σ Bytes)
      (readHttpResponse limits) := by
  apply (carried_readHeaderLoop readerMap limits.maxHeaderBytes []).bind
  rintro ⟨rawHead, bodyPrefix⟩
  apply (Carried.ofExcept _).bind
  intro headers
  apply (Carried.ofExcept _).bind
  intro status
  apply (Carried.ofExcept _).bind
  intro mode
  apply (carried_withPrefix
    (carried_readBody (readerMap_prefixReader readerMap) mode _)).bind
  intro body
  exact Carried.ofExcept _

theorem Request.carried_fromStream (readerMap : ReaderMap view) (limits : Limits) :
    Carried view (fromStream limits : ReadResult σ Request) (fromStream limits) := by
  apply (carried_readHeaderLoop readerMap limits.maxHeaderBytes []).bind
  rintro ⟨rawHead, bodyPrefix⟩
  apply (Carried.ofExcept _).bind
  rintro ⟨method, path, headers⟩
  apply (Carried.ofExcept _).bind
  intro declared
  by_cases large : limits.maxBodyBytes < declared
  · simp only [if_pos large]
    exact Carried.fail _
  · by_cases prefixLarge : limits.maxBodyBytes < bodyPrefix.length
    · simp only [if_neg large, if_pos prefixLarge]
      exact Carried.fail _
    · simp only [if_neg large, if_neg prefixLarge]
      by_cases remaining : 0 < declared - bodyPrefix.length
      · simp only [if_pos remaining]
        apply (carried_readFull readerMap _).bind
        intro rest
        exact Carried.pure _
      · simp only [if_neg remaining]
        exact Carried.pure _

end

/-! ## At most so many bytes -/

section

variable {σ : Type} [Metered σ]

/-- A read and what follows it. -/
theorem consumes_readSome_bind {α : Type} {size bound : Nat}
    {next : Bytes → ReadResult σ α}
    (later : ∀ chunk : Bytes, chunk.length ≤ size →
      chunk.length ≤ bound ∧ Consumes (next chunk) (bound - chunk.length)) :
    Consumes (readSome size >>= next) bound := by
  intro stream
  have taken := Metered.consumed_read_le size stream
  rw [readSome_bind]
  cases answer : Read.read size stream with
  | mk outcome rest =>
      rw [answer] at taken
      cases outcome with
      | error error =>
          exact Nat.le_trans taken (Nat.add_le_add_left (Nat.zero_le bound) _)
      | ok chunk =>
          obtain ⟨within, consumes⟩ := later chunk (Read.length_read_le answer)
          have more := consumes rest
          dsimp only [handedOver] at taken more ⊢
          omega

theorem consumes_readFull (need : Nat) :
    Consumes (readFull need : ReadResult σ _) need :=
  (Consumes.readBuffer need).mapError MzaniError.ofIo

/-- The scan stops within one read of its limit. -/
theorem consumes_readHeaderLoop (maxHeaderBytes : Nat) (buf : Bytes) :
    Consumes (readHeaderLoop maxHeaderBytes buf : ReadResult σ _)
      (maxHeaderBytes + 4096 - buf.length) := by
  induction buf using readHeaderLoop.induct maxHeaderBytes with
  | case1 buf full =>
      rw [readHeaderLoop, dif_pos full]
      exact Consumes.fail _
  | case2 buf within induction =>
      rw [readHeaderLoop, dif_neg within]
      apply consumes_readSome_bind
      intro chunk short
      constructor
      · omega
      · by_cases ended : chunk = []
        · simp only [dif_pos ended]
          exact Consumes.fail _
        · simp only [dif_neg ended]
          cases findSubslice (buf ++ chunk) headerEnd with
          | none =>
              apply (induction chunk ended).mono
              rw [List.length_append]
              omega
          | some endIndex => exact Consumes.pure _

theorem consumes_readFixedLoop (length maxBytes : Nat) (body : Bytes) :
    Consumes (readFixedLoop length maxBytes body : ReadResult σ Bytes)
      (length - body.length) := by
  induction body using readFixedLoop.induct length maxBytes with
  | case1 body unfinished induction =>
      rw [readFixedLoop, dif_pos unfinished]
      apply consumes_readSome_bind
      intro chunk short
      constructor
      · omega
      · by_cases ended : chunk = []
        · simp only [dif_pos ended]
          exact Consumes.fail _
        · simp only [dif_neg ended]
          by_cases full : maxBytes < (body ++ chunk).length
          · simp only [if_pos full]
            exact Consumes.fail _
          · simp only [if_neg full]
            apply (induction chunk ended).mono
            rw [List.length_append]
            omega
  | case2 body finished exceeds =>
      rw [readFixedLoop, dif_neg finished, if_pos exceeds]
      exact Consumes.fail _
  | case3 body finished exact =>
      rw [readFixedLoop, dif_neg finished, if_neg exact]
      exact Consumes.pure _

theorem consumes_readUntilEofLoop {maxBytes : Nat} {body : Bytes}
    (within : body.length ≤ maxBytes) :
    Consumes (readUntilEofLoop maxBytes body : ReadResult σ Bytes)
      (maxBytes + 4096 - body.length) := by
  induction body using readUntilEofLoop.induct maxBytes with
  | case1 body induction =>
      rw [readUntilEofLoop]
      apply consumes_readSome_bind
      intro chunk short
      constructor
      · omega
      · by_cases ended : chunk = []
        · simp only [dif_pos ended]
          exact Consumes.pure _
        · simp only [dif_neg ended]
          by_cases full : maxBytes < (body ++ chunk).length
          · simp only [dif_pos full]
            exact Consumes.fail _
          · simp only [dif_neg full]
            apply (induction chunk ended full (Nat.le_of_not_lt full)).mono
            rw [List.length_append]
            omega

/-- A line is given up after 8193 bytes. -/
theorem consumes_readLineLoop {line : Bytes} (short : line.length ≤ 8 * 1024) :
    Consumes (readLineLoop line : ReadResult σ Bytes) (8193 - line.length) := by
  induction line using readLineLoop.induct with
  | case1 line induction =>
      rw [readLineLoop]
      have split : 8193 - line.length = 1 + (8192 - line.length) := by omega
      rw [split]
      apply (consumes_readFull 1).bind
      intro byte
      by_cases ended : chunkHeaderEnd.isSuffixOf (line ++ byte.val)
      · simp only [if_pos ended]
        exact Consumes.pure _
      · simp only [if_neg ended]
        by_cases long : 8 * 1024 < (line ++ byte.val).length
        · simp only [dif_pos long]
          exact Consumes.fail _
        · simp only [dif_neg long]
          apply (induction byte long (Nat.le_of_not_lt long)).mono
          have one := byte.property
          rw [List.length_append]
          omega

theorem consumes_readLine : Consumes (readLine : ReadResult σ Bytes) 8193 :=
  consumes_readLineLoop (Nat.zero_le _)

theorem consumes_readExactDelimiter (delimiter : Bytes) :
    Consumes (readExactDelimiter delimiter : ReadResult σ Unit) delimiter.length := by
  apply (consumes_readFull delimiter.length).bind_free
  intro buf
  by_cases same : buf.val ≠ delimiter
  · simp only [if_pos same]
    exact Consumes.fail _
  · simp only [if_neg same]
    exact Consumes.pure _

/-- Every byte that may still join the body pays for one size line and one
delimiter; the last pass has two lines. -/
theorem consumes_readChunkedLoop (maxBytes : Nat) (body : Bytes) :
    Consumes (readChunkedLoop maxBytes body : ReadResult σ Bytes)
      (8193 + (8193 + (maxBytes - body.length) * 8196)) := by
  induction body using readChunkedLoop.induct maxBytes with
  | case1 body induction =>
      rw [readChunkedLoop]
      apply consumes_readLine.bind
      intro sizeLine
      cases fromUtf8 sizeLine with
      | none => exact Consumes.fail _
      | some text =>
          cases parsed : fromStrRadix usizeLimit 16 (trim (firstPiece ';' text)) with
          | none =>
              simp only [parsed]
              exact Consumes.fail _
          | some chunkSize =>
              simp only [parsed]
              by_cases last : chunkSize = 0
              · simp only [dif_pos last]
                exact consumes_readLine.bind fun _ => Consumes.pure _
              · simp only [dif_neg last]
                by_cases full : maxBytes < body.length + chunkSize
                · simp only [dif_pos full]
                  exact Consumes.fail _
                · simp only [dif_neg full]
                  -- the data, the delimiter and what the rest of the body costs
                  have price : chunkSize +
                      (chunkHeaderEnd.length + (8193 + (8193 +
                        (maxBytes - (body.length + chunkSize)) * 8196))) ≤
                      8193 + (maxBytes - body.length) * 8196 := by
                    have two : chunkHeaderEnd.length = 2 := rfl
                    omega
                  refine Consumes.mono ?_ price
                  apply (consumes_readFull chunkSize).bind
                  intro chunk
                  apply (consumes_readExactDelimiter chunkHeaderEnd).bind
                  intro _
                  apply (induction chunkSize last full chunk).mono
                  have filled := chunk.property
                  rw [List.length_append, filled]

theorem consumes_readBody (mode : BodyMode) (maxBytes : Nat) :
    Consumes (readBody mode maxBytes : ReadResult σ Bytes)
      ((maxBytes + 2) * 8193 + 3 * maxBytes) := by
  cases mode with
  | fixed length =>
      change Consumes (readFixedBody length maxBytes) _
      unfold readFixedBody
      by_cases large : maxBytes < length
      · rw [if_pos large]
        exact Consumes.fail _
      · rw [if_neg large]
        apply (consumes_readFixedLoop length maxBytes []).mono
        rw [List.length_nil]
        omega
  | chunked =>
      apply (consumes_readChunkedLoop maxBytes []).mono
      rw [List.length_nil]
      omega
  | untilEof =>
      apply (consumes_readUntilEofLoop (Nat.zero_le maxBytes)).mono
      rw [List.length_nil]
      omega

/-- Bytes of the prefix were taken from the stream before. -/
instance : Metered (PrefixReader σ) where
  consumed reader := Metered.consumed reader.inner
  consumed_read_le := by
    intro size reader
    change Metered.consumed (PrefixReader.read size reader).2.inner ≤
      _ + (handedOver (PrefixReader.read size reader).1).length
    by_cases left : reader.offset < reader.pre.length
    · simp [PrefixReader.read, left]
    · simpa [PrefixReader.read, left] using Metered.consumed_read_le size reader.inner

theorem consumes_withPrefix {α : Type} {bodyPrefix : Bytes} {bound : Nat}
    {action : ReadResult (PrefixReader σ) α} (consumes : Consumes action bound) :
    Consumes (withPrefix bodyPrefix action) bound := by
  intro stream
  exact consumes (PrefixReader.new bodyPrefix stream)

theorem consumes_readHttpResponse (limits : Limits) :
    Consumes (readHttpResponse limits : ReadResult σ Bytes)
      (limits.maxHeaderBytes + 4096 +
        ((limits.maxResponseBytes + 2) * 8193 + 3 * limits.maxResponseBytes)) := by
  apply (consumes_readHeaderLoop limits.maxHeaderBytes []).bind
  rintro ⟨rawHead, bodyPrefix⟩
  apply Consumes.ofExcept_bind
  intro headers
  apply Consumes.ofExcept_bind
  intro status
  apply Consumes.ofExcept_bind
  intro mode
  apply (consumes_withPrefix (consumes_readBody mode _)).bind_free
  intro body
  exact Consumes.ofExcept _

theorem Request.consumes_fromStream (limits : Limits) :
    Consumes (fromStream limits : ReadResult σ Request)
      (limits.maxHeaderBytes + 4096 + limits.maxBodyBytes) := by
  apply (consumes_readHeaderLoop limits.maxHeaderBytes []).bind
  rintro ⟨rawHead, bodyPrefix⟩
  apply Consumes.ofExcept_bind
  rintro ⟨method, path, headers⟩
  apply Consumes.ofExcept_bind
  intro declared
  by_cases large : limits.maxBodyBytes < declared
  · simp only [if_pos large]
    exact Consumes.fail _
  · by_cases prefixLarge : limits.maxBodyBytes < bodyPrefix.length
    · simp only [if_neg large, if_pos prefixLarge]
      exact Consumes.fail _
    · simp only [if_neg large, if_neg prefixLarge]
      by_cases remaining : 0 < declared - bodyPrefix.length
      · simp only [if_pos remaining]
        have within : declared - bodyPrefix.length ≤ limits.maxBodyBytes := by omega
        apply ((consumes_readFull _).mono within).bind_free
        intro rest
        exact Consumes.pure _
      · simp only [if_neg remaining]
        exact Consumes.pure _

end

/-- A stream without an end: the read at a position delivers as many bytes as
`most` allows there, and one more. -/
structure Endless where
  content : Nat → UInt8
  most : Nat → Nat
  position : Nat

instance : Read Endless where
  read size stream :=
    let count := min size (stream.most stream.position + 1)
    (.ok ((List.range count).map fun index => stream.content (stream.position + index)),
      { stream with position := stream.position + count })
  interrupts _ := 0
  length_read_le := by
    intro size stream bytes next answer
    simp only [Prod.mk.injEq, Except.ok.injEq] at answer
    rw [← answer.1, List.length_map, List.length_range]
    exact Nat.min_le_left _ _
  interrupts_read_le := by
    intro size stream
    exact Nat.le_refl 0
  interrupts_read_lt := by
    intro size stream error next answer
    simp at answer

/-- A response of the letter `A` only, never ending, in reads of one to seven
bytes. -/
def letters : Endless :=
  { content := fun _ => 65, most := fun position => position % 7, position := 0 }

end Mzani
