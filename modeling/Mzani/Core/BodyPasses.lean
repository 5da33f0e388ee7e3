import Mzani.Core.HeaderScan
import Mzani.Core.Response

/-!
# Passes of the body loops

The three body readers are loops that grow a body.  One pass of a loop as a
function of its own shows every body that a reader holds on its way.
-/

namespace Mzani

open Support

/-- What one pass of a loop leaves: the body, the answer if the pass ends the
loop, and the stream. -/
structure Pass (σ : Type) where
  body : Bytes
  answer : Option (MzaniResult Bytes)
  rest : σ

section

variable {σ : Type} [Read σ]

/-- A pass of the loop of `read_fixed_body`. -/
def fixedPass (length maxBytes : Nat) (body : Bytes) (stream : σ) : Pass σ :=
  if body.length < length then
    match Read.read (min (length - body.length) 4096) stream with
    | (.error error, rest) => ⟨body, some (.error (MzaniError.ofIo error)), rest⟩
    | (.ok chunk, rest) =>
        if chunk = [] then
          ⟨body, some (.error (parseErr "unexpected end of response body")), rest⟩
        else if maxBytes < (body ++ chunk).length then
          ⟨body ++ chunk, some (.error .bodyTooLarge), rest⟩
        else ⟨body ++ chunk, none, rest⟩
  else if length < body.length then
    ⟨body, some (.error (parseErr "response body exceeds content-length")), stream⟩
  else ⟨body, some (.ok body), stream⟩

/-- A pass of the loop of `read_until_eof`. -/
def untilEofPass (maxBytes : Nat) (body : Bytes) (stream : σ) : Pass σ :=
  match Read.read 4096 stream with
  | (.error error, rest) => ⟨body, some (.error (MzaniError.ofIo error)), rest⟩
  | (.ok chunk, rest) =>
      if chunk = [] then ⟨body, some (.ok body), rest⟩
      else if maxBytes < (body ++ chunk).length then
        ⟨body ++ chunk, some (.error .bodyTooLarge), rest⟩
      else ⟨body ++ chunk, none, rest⟩

/-- The data of a chunk join the body before its delimiter is read. -/
def chunkPass (chunkSize : Nat) (body : Bytes) (stream : σ) : Pass σ :=
  match readFull chunkSize stream with
  | (.error error, rest) => ⟨body, some (.error error), rest⟩
  | (.ok chunk, rest) =>
      match readExactDelimiter chunkHeaderEnd rest with
      | (.error error, rest) => ⟨body ++ chunk.val, some (.error error), rest⟩
      | (.ok (), rest) => ⟨body ++ chunk.val, none, rest⟩

/-- A pass of the loop of `read_chunked_body`. -/
def chunkedPass (maxBytes : Nat) (body : Bytes) (stream : σ) : Pass σ :=
  match readLine stream with
  | (.error error, rest) => ⟨body, some (.error error), rest⟩
  | (.ok sizeLine, rest) =>
      match fromUtf8 sizeLine with
      | none => ⟨body, some (.error (parseErr "invalid chunk size line")), rest⟩
      | some sizeLine =>
          match fromStrRadix usizeLimit 16 (trim (firstPiece ';' sizeLine)) with
          | none => ⟨body, some (.error (parseErr "invalid chunk size")), rest⟩
          | some chunkSize =>
              if chunkSize = 0 then
                match readLine rest with
                | (.error error, rest) => ⟨body, some (.error error), rest⟩
                | (.ok _, rest) => ⟨body, some (.ok body), rest⟩
              else if maxBytes < body.length + chunkSize then
                ⟨body, some (.error .bodyTooLarge), rest⟩
              else chunkPass chunkSize body rest

def bodyPass (mode : BodyMode) (maxBytes : Nat) (body : Bytes) (stream : σ) : Pass σ :=
  match mode with
  | .fixed length => fixedPass length maxBytes body stream
  | .chunked => chunkedPass maxBytes body stream
  | .untilEof => untilEofPass maxBytes body stream

/-- The loops, from any body on. -/
def bodyLoop (mode : BodyMode) (maxBytes : Nat) (body : Bytes) : ReadResult σ Bytes :=
  match mode with
  | .fixed length => readFixedLoop length maxBytes body
  | .chunked => readChunkedLoop maxBytes body
  | .untilEof => readUntilEofLoop maxBytes body

/-! ## A loop is its passes -/

/-- The run of a loop whose first pass is known. -/
def afterPass (loop : Bytes → ReadResult σ Bytes) (pass : Pass σ) :
    MzaniResult Bytes × σ :=
  match pass.answer with
  | some answer => (answer, pass.rest)
  | none => loop pass.body pass.rest

theorem readFixedLoop_pass (length maxBytes : Nat) (body : Bytes) (stream : σ) :
    readFixedLoop length maxBytes body stream =
      afterPass (readFixedLoop length maxBytes) (fixedPass length maxBytes body stream) := by
  rw [readFixedLoop, fixedPass]
  by_cases more : body.length < length
  · rw [dif_pos more, if_pos more, readSome_bind]
    cases Read.read (min (length - body.length) 4096) stream with
    | mk outcome rest =>
        cases outcome with
        | error error => rfl
        | ok chunk =>
            by_cases ended : chunk = []
            · simp [ended, afterPass]
            · by_cases full : maxBytes < (body ++ chunk).length
              · simp only [dif_neg ended, if_neg ended, if_pos full]
                rfl
              · simp only [dif_neg ended, if_neg ended, if_neg full]
                rfl
  · rw [dif_neg more, if_neg more]
    by_cases exceeds : length < body.length
    · rw [if_pos exceeds, if_pos exceeds]
      rfl
    · rw [if_neg exceeds, if_neg exceeds]
      rfl

theorem readUntilEofLoop_pass (maxBytes : Nat) (body : Bytes) (stream : σ) :
    readUntilEofLoop maxBytes body stream =
      afterPass (readUntilEofLoop maxBytes) (untilEofPass maxBytes body stream) := by
  rw [readUntilEofLoop, untilEofPass, readSome_bind]
  cases Read.read 4096 stream with
  | mk outcome rest =>
      cases outcome with
      | error error => rfl
      | ok chunk =>
          by_cases ended : chunk = []
          · simp [ended, afterPass]
          · by_cases full : maxBytes < (body ++ chunk).length
            · simp only [dif_neg ended, if_neg ended, dif_pos full, if_pos full]
              rfl
            · simp only [dif_neg ended, if_neg ended, dif_neg full, if_neg full]
              rfl

theorem readChunkedLoop_pass (maxBytes : Nat) (body : Bytes) (stream : σ) :
    readChunkedLoop maxBytes body stream =
      afterPass (readChunkedLoop maxBytes) (chunkedPass maxBytes body stream) := by
  rw [readChunkedLoop, chunkedPass]
  cases line : (readLine : ReadResult σ Bytes) stream with
  | mk outcome rest =>
      cases outcome with
      | error error => exact Reading.bind_of_error line
      | ok sizeLine =>
          rw [Reading.bind_of_ok line]
          dsimp only
          cases fromUtf8 sizeLine with
          | none => rfl
          | some text =>
              cases parsed : fromStrRadix usizeLimit 16 (trim (firstPiece ';' text)) with
              | none =>
                  simp only [parsed]
                  rfl
              | some chunkSize =>
                  simp only [parsed]
                  by_cases last : chunkSize = 0
                  · rw [dif_pos last, if_pos last]
                    cases ending : (readLine : ReadResult σ Bytes) rest with
                    | mk outcome rest =>
                        cases outcome with
                        | error error => exact Reading.bind_of_error ending
                        | ok line => exact Reading.bind_of_ok ending
                  · rw [dif_neg last, if_neg last]
                    by_cases full : maxBytes < body.length + chunkSize
                    · rw [dif_pos full, if_pos full]
                      rfl
                    · rw [dif_neg full, if_neg full, chunkPass]
                      cases data : readFull chunkSize rest with
                      | mk outcome rest =>
                          cases outcome with
                          | error error => exact Reading.bind_of_error data
                          | ok chunk =>
                              rw [Reading.bind_of_ok data]
                              cases delimiter : readExactDelimiter chunkHeaderEnd rest with
                              | mk outcome rest =>
                                  cases outcome with
                                  | error error =>
                                      rw [Reading.bind_of_error delimiter]
                                      simp [delimiter, afterPass]
                                  | ok _ =>
                                      rw [Reading.bind_of_ok delimiter]
                                      simp [delimiter, afterPass]

theorem bodyLoop_pass (mode : BodyMode) (maxBytes : Nat) (body : Bytes) (stream : σ) :
    bodyLoop mode maxBytes body stream =
      afterPass (bodyLoop mode maxBytes) (bodyPass mode maxBytes body stream) := by
  cases mode with
  | fixed length => exact readFixedLoop_pass length maxBytes body stream
  | chunked => exact readChunkedLoop_pass maxBytes body stream
  | untilEof => exact readUntilEofLoop_pass maxBytes body stream

/-! ## What a pass keeps -/

/-- The outcome of a pass that was started on a body within the limit. -/
structure Pass.Within (maxBytes : Nat) (body : Bytes) (pass : Pass σ) : Prop where
  bounded : pass.body.length ≤ maxBytes + 4096
  goesOn : pass.answer = none →
    body.length < pass.body.length ∧ pass.body.length ≤ maxBytes
  accepts : ∀ result, pass.answer = some (.ok result) → result = body ∧ pass.body = body

section

variable {maxBytes : Nat} {body : Bytes} (within : body.length ≤ maxBytes)

include within

omit [Read σ] in
/-- A pass that fails without touching the body. -/
theorem Pass.within_refused (error : MzaniError) (rest : σ) :
    Pass.Within maxBytes body ⟨body, some (.error error), rest⟩ := by
  constructor
  · exact Nat.le_add_right_of_le within
  · simp
  · simp

omit [Read σ] in
theorem Pass.within_accepted (rest : σ) :
    Pass.Within maxBytes body ⟨body, some (.ok body), rest⟩ := by
  constructor
  · exact Nat.le_add_right_of_le within
  · simp
  · intro result accepted
    simp only [Option.some.injEq, Except.ok.injEq] at accepted
    exact ⟨accepted.symm, rfl⟩

omit [Read σ] in
/-- A pass that reads once into a buffer of 4096 bytes. -/
theorem Pass.within_read {chunk : Bytes} (nonempty : chunk ≠ [])
    (short : chunk.length ≤ 4096) (rest : σ) :
    Pass.Within maxBytes body
      (if maxBytes < (body ++ chunk).length then
        ⟨body ++ chunk, some (.error .bodyTooLarge), rest⟩
      else ⟨body ++ chunk, none, rest⟩) := by
  have positive := List.length_pos_iff.mpr nonempty
  have grown : (body ++ chunk).length = body.length + chunk.length := List.length_append
  by_cases full : maxBytes < (body ++ chunk).length
  · rw [if_pos full]
    constructor
    · change (body ++ chunk).length ≤ _
      omega
    · simp
    · simp
  · rw [if_neg full]
    constructor
    · change (body ++ chunk).length ≤ _
      omega
    · intro _
      change body.length < (body ++ chunk).length ∧ (body ++ chunk).length ≤ maxBytes
      omega
    · simp

theorem fixedPass_within (length : Nat) (stream : σ) :
    (fixedPass length maxBytes body stream).Within maxBytes body := by
  rw [fixedPass]
  by_cases more : body.length < length
  · rw [if_pos more]
    cases answer : Read.read (min (length - body.length) 4096) stream with
    | mk outcome rest =>
        cases outcome with
        | error error => exact Pass.within_refused within _ rest
        | ok chunk =>
            have taken := Read.length_read_le answer
            by_cases ended : chunk = []
            · simp only [if_pos ended]
              exact Pass.within_refused within _ rest
            · simp only [if_neg ended]
              exact Pass.within_read within ended (by omega) rest
  · rw [if_neg more]
    by_cases exceeds : length < body.length
    · rw [if_pos exceeds]
      exact Pass.within_refused within _ stream
    · rw [if_neg exceeds]
      exact Pass.within_accepted within stream

theorem untilEofPass_within (stream : σ) :
    (untilEofPass maxBytes body stream).Within maxBytes body := by
  rw [untilEofPass]
  cases answer : Read.read 4096 stream with
  | mk outcome rest =>
      cases outcome with
      | error error => exact Pass.within_refused within _ rest
      | ok chunk =>
          by_cases ended : chunk = []
          · simp only [if_pos ended]
            exact Pass.within_accepted within rest
          · simp only [if_neg ended]
            exact Pass.within_read within ended (Read.length_read_le answer) rest

theorem chunkPass_within {chunkSize : Nat} (positive : chunkSize ≠ 0)
    (fits : body.length + chunkSize ≤ maxBytes) (stream : σ) :
    (chunkPass chunkSize body stream).Within maxBytes body := by
  rw [chunkPass]
  cases readFull chunkSize stream with
  | mk outcome rest =>
      cases outcome with
      | error error => exact Pass.within_refused within _ rest
      | ok chunk =>
          have filled := chunk.property
          have grown : (body ++ chunk.val).length = body.length + chunkSize := by
            rw [List.length_append, filled]
          dsimp only
          cases readExactDelimiter chunkHeaderEnd rest with
          | mk outcome rest =>
              cases outcome with
              | error error =>
                  constructor
                  · change (body ++ chunk.val).length ≤ _
                    omega
                  · simp
                  · simp
              | ok _ =>
                  constructor
                  · change (body ++ chunk.val).length ≤ _
                    omega
                  · intro _
                    change body.length < (body ++ chunk.val).length ∧
                      (body ++ chunk.val).length ≤ maxBytes
                    omega
                  · simp

theorem chunkedPass_within (stream : σ) :
    (chunkedPass maxBytes body stream).Within maxBytes body := by
  rw [chunkedPass]
  cases (readLine : ReadResult σ Bytes) stream with
  | mk outcome rest =>
      cases outcome with
      | error error => exact Pass.within_refused within _ rest
      | ok sizeLine =>
          dsimp only
          cases fromUtf8 sizeLine with
          | none => exact Pass.within_refused within _ rest
          | some text =>
              cases parsed : fromStrRadix usizeLimit 16 (trim (firstPiece ';' text)) with
              | none =>
                  simp only [parsed]
                  exact Pass.within_refused within _ rest
              | some chunkSize =>
                  simp only [parsed]
                  by_cases last : chunkSize = 0
                  · rw [if_pos last]
                    cases (readLine : ReadResult σ Bytes) rest with
                    | mk outcome rest =>
                        cases outcome with
                        | error error => exact Pass.within_refused within _ rest
                        | ok line => exact Pass.within_accepted within rest
                  · rw [if_neg last]
                    by_cases full : maxBytes < body.length + chunkSize
                    · rw [if_pos full]
                      exact Pass.within_refused within _ rest
                    · rw [if_neg full]
                      exact chunkPass_within within last (Nat.le_of_not_lt full) rest

theorem bodyPass_within (mode : BodyMode) (stream : σ) :
    (bodyPass mode maxBytes body stream).Within maxBytes body := by
  cases mode with
  | fixed length => exact fixedPass_within within length stream
  | chunked => exact chunkedPass_within within stream
  | untilEof => exact untilEofPass_within within stream

end

/-! ## What a loop holds -/

/-- A body that the loop holds at some moment, from `body` on. -/
inductive Held (mode : BodyMode) (maxBytes : Nat) : Bytes → σ → Bytes → Prop
  | now (body : Bytes) (stream : σ) : Held mode maxBytes body stream body
  | grown (body : Bytes) (stream : σ) :
      Held mode maxBytes body stream (bodyPass mode maxBytes body stream).body
  | later {body held : Bytes} {stream : σ}
      (goesOn : (bodyPass mode maxBytes body stream).answer = none)
      (rest : Held mode maxBytes (bodyPass mode maxBytes body stream).body
        (bodyPass mode maxBytes body stream).rest held) :
      Held mode maxBytes body stream held

/-- The limit is exceeded by no more than one read. -/
theorem Held.length_le {mode : BodyMode} {maxBytes : Nat} {body held : Bytes} {stream : σ}
    (within : body.length ≤ maxBytes) (isHeld : Held mode maxBytes body stream held) :
    held.length ≤ maxBytes + 4096 := by
  induction isHeld with
  | now body stream => exact Nat.le_add_right_of_le within
  | grown body stream => exact (bodyPass_within within mode stream).bounded
  | later goesOn rest induction =>
      exact induction ((bodyPass_within within mode _).goesOn goesOn).2

/-- What a loop returns it has held, and it is within the limit. -/
theorem held_of_bodyLoop {mode : BodyMode} {maxBytes : Nat} {body result : Bytes}
    {stream : σ} (within : body.length ≤ maxBytes)
    (answer : (bodyLoop mode maxBytes body stream).1 = .ok result) :
    Held mode maxBytes body stream result ∧ result.length ≤ maxBytes := by
  induction missing : maxBytes - body.length using Nat.strong_induction_on
    generalizing body stream with
  | h missing induction =>
      have pass := bodyPass_within within mode stream
      rw [bodyLoop_pass, afterPass] at answer
      cases ending : (bodyPass mode maxBytes body stream).answer with
      | some last =>
          rw [ending] at answer
          change last = .ok result at answer
          subst answer
          obtain ⟨rfl, same⟩ := pass.accepts result ending
          exact ⟨.now result stream, within⟩
      | none =>
          rw [ending] at answer
          obtain ⟨more, fits⟩ := pass.goesOn ending
          obtain ⟨isHeld, bounded⟩ := induction _ (by omega) fits answer rfl
          exact ⟨.later ending isHeld, bounded⟩

/-- A body that is returned was collected by its loop, from nothing. -/
theorem bodyLoop_of_readBody {mode : BodyMode} {maxBytes : Nat} {stream : σ} {body : Bytes}
    (answer : (readBody mode maxBytes stream).1 = .ok body) :
    (bodyLoop mode maxBytes [] stream).1 = .ok body := by
  cases mode with
  | fixed length =>
      change (readFixedBody length maxBytes stream).1 = .ok body at answer
      rw [readFixedBody] at answer
      by_cases large : maxBytes < length
      · simp [large] at answer
      · rw [if_neg large] at answer
        exact answer
  | chunked => exact answer
  | untilEof => exact answer

theorem held_of_readBody {mode : BodyMode} {maxBytes : Nat} {stream : σ} {body : Bytes}
    (answer : (readBody mode maxBytes stream).1 = .ok body) :
    Held mode maxBytes [] stream body ∧ body.length ≤ maxBytes :=
  held_of_bodyLoop (Nat.zero_le maxBytes) (bodyLoop_of_readBody answer)

end

end Mzani
