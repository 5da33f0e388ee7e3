import Mzani.Core.BodyPasses
import Mzani.Support.Truncation

/-!
# Body readers on stream contents

The three body readers are functions of the content of the stream: the split
into reads does not show.  The chunked reader refines the same code run over
the content itself, so its lemmas are stated there.
-/

namespace Mzani

open Support

/-! ## Readers that use `read_exact` -/

theorem readExact_of_readFull {σ : Type} [Read σ] {need : Nat} {stream last : σ}
    {bytes : { bytes : Bytes // bytes.length = need }}
    (answer : readFull need stream = (.ok bytes, last)) :
    readExact need stream = (.ok bytes.val, last) := by
  have filled := Reading.mapError_eq_ok_iff.mp answer
  cases read : readExact need stream with
  | mk outcome rest =>
      cases outcome with
      | error error =>
          rw [readBuffer_of_error read] at filled
          cases filled
      | ok content =>
          rw [readBuffer_of_ok read, Prod.mk.injEq, Except.ok.injEq] at filled
          obtain ⟨rfl, rfl⟩ := filled
          rfl

section

variable {σ τ : Type} [Read σ] [Read τ] {map : σ → τ}

theorem carried_readLineLoop
    (filled : ∀ need, Carried map (readFull need : ReadResult σ _) (readFull need))
    (line : Bytes) :
    Carried map (readLineLoop line : ReadResult σ Bytes) (readLineLoop line) := by
  induction line using readLineLoop.induct with
  | case1 line induction =>
      rw [readLineLoop, readLineLoop]
      apply (filled 1).bind
      intro byte
      by_cases ended : chunkHeaderEnd.isSuffixOf (line ++ byte.val)
      · simp only [if_pos ended]
        exact Carried.pure _
      · simp only [if_neg ended]
        by_cases long : 8 * 1024 < (line ++ byte.val).length
        · simp only [dif_pos long]
          exact Carried.fail _
        · simp only [dif_neg long]
          exact induction byte long

theorem carried_readExactDelimiter
    (filled : ∀ need, Carried map (readFull need : ReadResult σ _) (readFull need))
    (delimiter : Bytes) :
    Carried map (readExactDelimiter delimiter : ReadResult σ Unit)
      (readExactDelimiter delimiter) := by
  apply (filled delimiter.length).bind
  intro buf
  by_cases same : buf.val ≠ delimiter
  · simp only [if_pos same]
    exact Carried.fail _
  · simp only [if_neg same]
    exact Carried.pure _

theorem carried_readChunkedLoop
    (filled : ∀ need, Carried map (readFull need : ReadResult σ _) (readFull need))
    (maxBytes : Nat) (body : Bytes) :
    Carried map (readChunkedLoop maxBytes body : ReadResult σ Bytes)
      (readChunkedLoop maxBytes body) := by
  induction body using readChunkedLoop.induct maxBytes with
  | case1 body induction =>
      rw [readChunkedLoop, readChunkedLoop]
      apply (carried_readLineLoop filled []).bind
      intro sizeLine
      cases fromUtf8 sizeLine with
      | none => exact Carried.fail _
      | some text =>
          cases parsed : fromStrRadix usizeLimit 16 (trim (firstPiece ';' text)) with
          | none =>
              simp only [parsed]
              exact Carried.fail _
          | some chunkSize =>
              simp only [parsed]
              by_cases last : chunkSize = 0
              · simp only [dif_pos last]
                exact (carried_readLineLoop filled []).bind fun _ => Carried.pure _
              · simp only [dif_neg last]
                by_cases full : maxBytes < body.length + chunkSize
                · simp only [dif_pos full]
                  exact Carried.fail _
                · simp only [dif_neg full]
                  apply (filled chunkSize).bind
                  intro chunk
                  apply (carried_readExactDelimiter filled chunkHeaderEnd).bind
                  intro _
                  exact induction chunkSize last full chunk

end

section

variable {σ : Type} [ByteStream σ]

theorem refines_readFull (need : Nat) :
    Refines (readFull need : ReadResult σ _) (readFull need) :=
  Carried.mapError (Refines.readBuffer need) MzaniError.ofIo

theorem refines_readChunkedLoop (maxBytes : Nat) (body : Bytes) :
    Refines (readChunkedLoop maxBytes body : ReadResult σ Bytes)
      (readChunkedLoop maxBytes body) :=
  carried_readChunkedLoop refines_readFull maxBytes body

/-- The chunked reader answers by the content of the stream. -/
theorem readChunkedBody_content {maxBytes : Nat} {stream : σ} {content : List Item}
    (same : ByteStream.items stream = content) :
    (readChunkedBody maxBytes stream).1 = (readChunkedBody maxBytes content).1 := by
  subst same
  exact (congrArg Prod.fst (refines_readChunkedLoop maxBytes [] stream)).symm

end

theorem local_readFull (need : Nat) :
    Local (readFull need : ReadResult (List Item) _) :=
  (Local.readBuffer need).mapError MzaniError.ofIo

theorem local_readLineLoop (line : Bytes) :
    Local (readLineLoop line : ReadResult (List Item) Bytes) := by
  induction line using readLineLoop.induct with
  | case1 line induction =>
      rw [readLineLoop]
      apply (local_readFull 1).bind
      intro byte
      by_cases ended : chunkHeaderEnd.isSuffixOf (line ++ byte.val)
      · simp only [if_pos ended]
        exact Local.pure _
      · simp only [if_neg ended]
        by_cases long : 8 * 1024 < (line ++ byte.val).length
        · simp only [dif_pos long]
          exact Local.fail _
        · simp only [dif_neg long]
          exact induction byte long

theorem local_readExactDelimiter (delimiter : Bytes) :
    Local (readExactDelimiter delimiter : ReadResult (List Item) Unit) := by
  apply (local_readFull delimiter.length).bind
  intro buf
  by_cases same : buf.val ≠ delimiter
  · simp only [if_pos same]
    exact Local.fail _
  · simp only [if_neg same]
    exact Local.pure _

theorem local_readChunkedLoop (maxBytes : Nat) (body : Bytes) :
    Local (readChunkedLoop maxBytes body : ReadResult (List Item) Bytes) := by
  induction body using readChunkedLoop.induct maxBytes with
  | case1 body induction =>
      rw [readChunkedLoop]
      apply (local_readLineLoop []).bind
      intro sizeLine
      cases fromUtf8 sizeLine with
      | none => exact Local.fail _
      | some text =>
          cases parsed : fromStrRadix usizeLimit 16 (trim (firstPiece ';' text)) with
          | none =>
              simp only [parsed]
              exact Local.fail _
          | some chunkSize =>
              simp only [parsed]
              by_cases last : chunkSize = 0
              · simp only [dif_pos last]
                exact (local_readLineLoop []).bind fun _ => Local.pure _
              · simp only [dif_neg last]
                by_cases full : maxBytes < body.length + chunkSize
                · simp only [dif_pos full]
                  exact Local.fail _
                · simp only [dif_neg full]
                  apply (local_readFull chunkSize).bind
                  intro chunk
                  apply (local_readExactDelimiter chunkHeaderEnd).bind
                  intro _
                  exact induction chunkSize last full chunk

/-! ## Lines -/

theorem readFull_bytes {need : Nat} {bytes : Bytes}
    (length : bytes.length = need) (tail : List Item) :
    (readFull need : ReadResult (List Item) _) (bytes.map .byte ++ tail) =
      (.ok ⟨bytes, length⟩, tail) := by
  have taken : readExact need (bytes.map .byte ++ tail) = (.ok bytes, tail) := by
    rw [readExact_content, takeExact_bytes length]
  exact Reading.mapError_of_ok (readBuffer_of_ok taken)

/-- One pass of the line loop, on a byte that is there. -/
theorem readLineLoop_byte (line : Bytes) (byte : UInt8) (tail : List Item) :
    (readLineLoop line : ReadResult (List Item) Bytes) (.byte byte :: tail) =
      if chunkHeaderEnd <:+ line ++ [byte] then
        (.ok ((line ++ [byte]).take (line.length - 1)), tail)
      else if 8 * 1024 ≤ line.length then
        (.error (parseErr "chunk metadata line too long"), tail)
      else readLineLoop (line ++ [byte]) tail := by
  have oneByte : [byte].length = 1 := rfl
  have filled := readFull_bytes oneByte tail
  rw [readLineLoop]
  rw [show (.byte byte :: tail : List Item) = [byte].map .byte ++ tail from rfl]
  rw [Reading.bind_of_ok filled]
  simp only [List.isSuffixOf_iff_suffix]
  by_cases ended : chunkHeaderEnd <:+ line ++ [byte]
  · simp [ended]
  · simp only [if_neg ended]
    by_cases long : 8 * 1024 ≤ line.length
    · have grown : 8 * 1024 < (line ++ [byte]).length := by simp; omega
      rw [dif_pos grown, if_pos long]
      rfl
    · have grown : ¬8 * 1024 < (line ++ [byte]).length := by simp; omega
      rw [dif_neg grown, if_neg long]

/-- A line and its terminator are read if the line is short enough, and
refused otherwise. -/
theorem readLineLoop_line {line whole more : Bytes} (tail : List Item)
    (ends : EndsFirst chunkHeaderEnd whole) (split : line ++ more = whole)
    (unfinished : more ≠ []) :
    (whole.length ≤ 8193 →
      (readLineLoop line : ReadResult (List Item) Bytes)
          (more.map .byte ++ tail) =
        (.ok (whole.take (whole.length - 2)), tail)) ∧
      (8193 < whole.length → line.length ≤ 8192 →
        ∃ error, ((readLineLoop line : ReadResult (List Item) Bytes)
          (more.map .byte ++ tail)).1 = .error error) := by
  induction more generalizing line with
  | nil => exact (unfinished rfl).elim
  | cons byte more induction =>
      have length := congrArg List.length split
      rw [List.length_append, List.length_cons] at length
      rw [List.map_cons, List.cons_append, readLineLoop_byte]
      by_cases last : more = []
      · -- the last byte completes the terminator
        subst last
        rw [if_pos (split ▸ ends.1), split]
        simp only [List.length_nil] at length
        constructor
        · intro _
          have same : line.length - 1 = whole.length - 2 := by omega
          rw [same]
          rfl
        · intro long _
          omega
      · have strict : line ++ [byte] ≠ whole := by
          intro same
          apply last
          rw [← split] at same
          simpa using same
        have isPrefix : line ++ [byte] <+: whole := ⟨more, by simpa using split⟩
        have notEnded : ¬chunkHeaderEnd <:+ line ++ [byte] := fun ended =>
          ends.free_of_strict_prefix isPrefix strict ended.isInfix
        have positive : 0 < more.length := List.length_pos_iff.mpr last
        rw [if_neg notEnded]
        have splitAgain : line ++ [byte] ++ more = whole := by simpa using split
        obtain ⟨short, long⟩ := induction splitAgain last
        constructor
        · intro fits
          rw [if_neg (by omega)]
          exact short fits
        · intro tooLong within
          by_cases full : 8 * 1024 ≤ line.length
          · exact ⟨_, by rw [if_pos full]⟩
          · rw [if_neg full]
            apply long tooLong
            simp only [List.length_append, List.length_singleton]
            omega

/-- A line without its terminator inside. -/
abbrev IsLine (line : Bytes) : Prop :=
  EndsFirst chunkHeaderEnd (line ++ chunkHeaderEnd)

theorem readLine_line {line : Bytes} (isLine : IsLine line)
    (short : line.length ≤ 8191) (tail : List Item) :
    (readLine : ReadResult (List Item) Bytes)
        ((line ++ chunkHeaderEnd).map .byte ++ tail) = (.ok line, tail) := by
  have read := (readLineLoop_line tail isLine (List.nil_append _)
    (by simp [chunkHeaderEnd])).1
  have length : (line ++ chunkHeaderEnd).length = line.length + 2 := by
    simp [chunkHeaderEnd]
  have answer := read (by omega)
  rw [length, Nat.add_sub_cancel, List.take_left] at answer
  exact answer

/-- What `read_line` can answer on a line. -/
theorem readLine_ok {line result : Bytes} {tail rest : List Item}
    (isLine : IsLine line)
    (answer : (readLine : ReadResult (List Item) Bytes)
      ((line ++ chunkHeaderEnd).map .byte ++ tail) = (.ok result, rest)) :
    result = line ∧ rest = tail := by
  by_cases short : line.length ≤ 8191
  · rw [readLine_line isLine short] at answer
    simp only [Prod.mk.injEq, Except.ok.injEq] at answer
    exact ⟨answer.1.symm, answer.2.symm⟩
  · have length : (line ++ chunkHeaderEnd).length = line.length + 2 := by
      simp [chunkHeaderEnd]
    obtain ⟨error, refused⟩ :=
      (readLineLoop_line tail isLine (List.nil_append _) (by simp [chunkHeaderEnd])).2
        (by omega) (by simp)
    have impossible := (congrArg Prod.fst answer).symm.trans refused
    simp at impossible

theorem readExactDelimiter_bytes (delimiter : Bytes) (tail : List Item) :
    (readExactDelimiter delimiter : ReadResult (List Item) Unit)
        (delimiter.map .byte ++ tail) = (.ok (), tail) := by
  unfold readExactDelimiter
  rw [Reading.bind_of_ok (readFull_bytes rfl tail)]
  simp

/-! ## Bodies of known length -/

section

variable {σ : Type} [ByteStream σ]

theorem readFixedLoop_done {length maxBytes : Nat} {body : Bytes}
    (done : body.length = length) (stream : σ) :
    readFixedLoop length maxBytes body stream = (.ok body, stream) := by
  rw [readFixedLoop, dif_neg (by omega), if_neg (by omega)]
  rfl

/-- The missing bytes are read, however they are split, and nothing after
them. -/
theorem readFixedLoop_bytes {length maxBytes : Nat} {body more : Bytes}
    {tail : List Item} {stream : σ} (whole : body.length + more.length = length)
    (fits : length ≤ maxBytes)
    (content : ByteStream.items stream = more.map .byte ++ tail) :
    ∃ rest, readFixedLoop length maxBytes body stream = (.ok (body ++ more), rest) ∧
      ByteStream.items rest = tail := by
  induction body using readFixedLoop.induct length maxBytes
    generalizing more stream with
  | case1 body unfinished induction =>
      have nonempty : more ≠ [] := by
        rintro rfl
        simp at whole
        omega
      have positive : 0 < min (length - body.length) 4096 := by omega
      obtain ⟨chunk, rest, answer, chunkNonempty, cut⟩ :=
        read_of_bytes positive nonempty content
      have chunkShort := Read.length_read_le answer
      obtain ⟨left, rfl, restContent⟩ : ∃ left, more = chunk ++ left ∧
          ByteStream.items rest = left.map .byte ++ tail := by
        rcases cut with inside | ⟨extra, rfl, tailContent⟩
        · exact inside
        · -- a read asks for no more than what is missing
          simp only [List.length_append] at chunkShort
          obtain rfl : extra = [] := List.length_eq_zero_iff.mp (by omega)
          exact ⟨[], by simp, by simpa using tailContent.symm⟩
      rw [List.length_append] at whole
      have grown : (body ++ chunk).length ≤ maxBytes := by
        rw [List.length_append]
        omega
      rw [readFixedLoop_pass, fixedPass, if_pos unfinished, answer]
      simp only [if_neg chunkNonempty, if_neg (Nat.not_lt.mpr grown)]
      rw [← List.append_assoc]
      exact induction chunk chunkNonempty
        (by rw [List.length_append]; omega) restContent
  | case2 body finished exceeds =>
      omega
  | case3 body finished within =>
      obtain rfl : more = [] := List.length_eq_zero_iff.mp (by omega)
      rw [readFixedLoop_done (by simpa using whole), List.append_nil]
      exact ⟨stream, rfl, by simpa using content⟩

/-- A successful reader has taken exactly the missing bytes. -/
theorem readFixedLoop_ok {length maxBytes : Nat} {body result : Bytes}
    {stream rest : σ} (within : body.length ≤ length)
    (answer : readFixedLoop length maxBytes body stream = (.ok result, rest)) :
    ∃ taken : Bytes,
      ByteStream.items stream = taken.map .byte ++ ByteStream.items rest ∧
        result = body ++ taken ∧ result.length = length := by
  induction body using readFixedLoop.induct length maxBytes
    generalizing stream with
  | case1 body unfinished induction =>
      have positive : 0 < min (length - body.length) 4096 := by omega
      rw [readFixedLoop_pass, fixedPass, if_pos unfinished] at answer
      cases read : Read.read (min (length - body.length) 4096) stream with
      | mk outcome next =>
          cases outcome with
          | error error => simp [read, afterPass] at answer
          | ok chunk =>
              have split := items_of_read_ok positive read
              have chunkShort := Read.length_read_le read
              by_cases ended : chunk = []
              · simp [read, ended, afterPass] at answer
              · simp only [read, if_neg ended] at answer
                by_cases full : maxBytes < (body ++ chunk).length
                · rw [if_pos full] at answer
                  simp [afterPass] at answer
                · rw [if_neg full] at answer
                  obtain ⟨taken, restSplit, whole, exactLength⟩ :=
                    induction chunk ended (by rw [List.length_append]; omega)
                      answer
                  refine ⟨chunk ++ taken, ?_, ?_, exactLength⟩
                  · rw [split, restSplit]
                    simp
                  · rw [whole, List.append_assoc]
  | case2 body finished exceeds => omega
  | case3 body finished exact =>
      rw [readFixedLoop_done (by omega)] at answer
      simp only [Prod.mk.injEq, Except.ok.injEq] at answer
      obtain ⟨rfl, rfl⟩ := answer
      exact ⟨[], by simp, by simp, by omega⟩

theorem readFixedBody_bytes {maxBytes : Nat} {body : Bytes} {tail : List Item}
    {stream : σ} (fits : body.length ≤ maxBytes)
    (content : ByteStream.items stream = body.map .byte ++ tail) :
    ∃ rest, readFixedBody body.length maxBytes stream = (.ok body, rest) ∧
      ByteStream.items rest = tail := by
  rw [readFixedBody, if_neg (by omega)]
  have whole : ([] : Bytes).length + body.length = body.length := by simp
  exact readFixedLoop_bytes whole fits content

theorem readFixedBody_ok {length maxBytes : Nat} {result : Bytes}
    {stream rest : σ}
    (answer : readFixedBody length maxBytes stream = (.ok result, rest)) :
    ByteStream.items stream = result.map .byte ++ ByteStream.items rest ∧
      result.length = length ∧ length ≤ maxBytes := by
  unfold readFixedBody at answer
  by_cases large : maxBytes < length
  · simp [large] at answer
  · rw [if_neg large] at answer
    obtain ⟨taken, split, rfl, exactLength⟩ :=
      readFixedLoop_ok (Nat.zero_le length) answer
    exact ⟨split, exactLength, Nat.le_of_not_lt large⟩

/-- A content with too few bytes is refused. -/
theorem readFixedBody_short {length maxBytes : Nat} {bytes : Bytes}
    {tail : List Item} {stream : σ} (short : bytes.length < length)
    (stops : Stops tail)
    (content : ByteStream.items stream = bytes.map .byte ++ tail) :
    ∃ error, (readFixedBody length maxBytes stream).1 = .error error := by
  cases answer : readFixedBody length maxBytes stream with
  | mk outcome rest =>
      cases outcome with
      | error error => exact ⟨error, rfl⟩
      | ok body =>
          obtain ⟨split, exactLength, _⟩ := readFixedBody_ok answer
          rw [content] at split
          rcases bytes_append_cases split with
            ⟨more, rfl, tailSplit⟩ | ⟨more, rfl, _⟩
          · cases more with
            | nil =>
                simp at exactLength
                omega
            | cons value more =>
                exact (stops value (by simp [tailSplit])).elim
          · simp at short
            omega

/-! ## Bodies that the end of the stream delimits -/

/-- All bytes up to the end of the stream. -/
theorem readUntilEofLoop_bytes {maxBytes : Nat} {body more : Bytes}
    {stream : σ} (fits : body.length + more.length ≤ maxBytes)
    (content : ByteStream.items stream = more.map .byte) :
    ∃ rest, readUntilEofLoop maxBytes body stream = (.ok (body ++ more), rest) ∧
      ByteStream.items rest = [] := by
  induction body using readUntilEofLoop.induct maxBytes
    generalizing more stream with
  | case1 body induction =>
      rw [readUntilEofLoop_pass, untilEofPass]
      by_cases finished : more = []
      · subst finished
        have stops : Stops (ByteStream.items stream) := by simp [Stops, content]
        rcases read_of_stops (by decide : 0 < 4096) stops with
          ⟨rest, answer⟩ | ⟨error, rest, _, failed⟩
        · rw [answer]
          exact ⟨rest, by simp [afterPass], (items_of_read_nothing (by decide) answer).2⟩
        · simp [content] at failed
      · obtain ⟨chunk, rest, answer, nonempty, cut⟩ :=
          read_of_bytes (by decide : 0 < 4096) finished
            (content.trans (List.append_nil _).symm)
        obtain ⟨left, rfl, restContent⟩ : ∃ left, more = chunk ++ left ∧
            ByteStream.items rest = left.map .byte := by
          rcases cut with ⟨left, split, restContent⟩ | ⟨extra, rfl, nothing⟩
          · exact ⟨left, split, by simpa using restContent⟩
          · have both := List.append_eq_nil_iff.mp nothing.symm
            obtain rfl : extra = [] := List.map_eq_nil_iff.mp both.1
            exact ⟨[], by simp, both.2⟩
        rw [List.length_append] at fits
        have grown : (body ++ chunk).length ≤ maxBytes := by
          rw [List.length_append]
          omega
        rw [answer]
        simp only [if_neg nonempty, if_neg (Nat.not_lt.mpr grown)]
        rw [← List.append_assoc]
        exact induction chunk nonempty
          (by rw [List.length_append]; omega)
          (by rw [List.length_append]; omega) restContent

theorem readUntilEof_bytes {maxBytes : Nat} {body : Bytes} {stream : σ}
    (fits : body.length ≤ maxBytes)
    (content : ByteStream.items stream = body.map .byte) :
    ∃ rest, readUntilEof maxBytes stream = (.ok body, rest) ∧
      ByteStream.items rest = [] := by
  have whole : ([] : Bytes).length + body.length ≤ maxBytes := by simpa using fits
  exact readUntilEofLoop_bytes whole content

end

end Mzani
