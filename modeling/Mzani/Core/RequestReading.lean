import Mzani.Core.ReadingBounds
import Mzani.Core.RequestFraming

/-!
# What reading a request consumes

The serialized form of an accepted request is what was taken from the reader:
the bytes pass through the header buffer, the cut behind the head and the read
of the missing body without a byte dropped, repeated or moved.  A declared
length over the limit is refused before any further read.
-/

namespace Mzani

open Support

section

variable {σ : Type} [Read σ]

/-- The scan hands on every byte that was delivered to it. -/
theorem delivered_readHeaderLoop {maxHeaderBytes : Nat} {buf head bodyPrefix : Bytes}
    {recorder rest : Recorder σ}
    (answer : readHeaderLoop maxHeaderBytes buf recorder =
      (.ok (head, bodyPrefix), rest)) :
    ∃ taken, delivered rest.calls = delivered recorder.calls ++ taken ∧
      head ++ bodyPrefix = buf ++ taken := by
  induction buf using readHeaderLoop.induct maxHeaderBytes generalizing recorder with
  | case1 buf full =>
      rw [readHeaderLoop_step, if_pos full] at answer
      simp at answer
  | case2 buf within induction =>
      rw [readHeaderLoop_step, if_neg within] at answer
      have step := Recorder.delivered_read 4096 recorder
      cases read : Read.read 4096 recorder with
      | mk outcome next =>
          rw [read] at step
          cases outcome with
          | error error => simp [read] at answer
          | ok chunk =>
              by_cases ended : chunk = []
              · simp [read, ended] at answer
              · simp only [read, if_neg ended] at answer
                cases found : findSubslice (buf ++ chunk) headerEnd with
                | none =>
                    simp only [found] at answer
                    obtain ⟨taken, total, whole⟩ := induction chunk ended answer
                    refine ⟨chunk ++ taken, ?_, ?_⟩
                    · rw [total, step, handedOver, List.append_assoc]
                    · rw [whole, List.append_assoc]
                | some index =>
                    simp only [found, Prod.mk.injEq, Except.ok.injEq] at answer
                    obtain ⟨⟨rfl, rfl⟩, rfl⟩ := answer
                    exact ⟨chunk, step, List.take_append_drop _ _⟩

theorem delivered_readFull {need : Nat} {recorder last : Recorder σ}
    {bytes : { bytes : Bytes // bytes.length = need }}
    (answer : readFull need recorder = (.ok bytes, last)) :
    delivered last.calls = delivered recorder.calls ++ bytes.val :=
  Recorder.delivered_readExact (readExact_of_readFull answer)

/-- The head declares a body of this length by a decimal numeral. -/
def DeclaresLength (headers : HeaderFields) (length : Nat) : Prop :=
  ∃ value, headerField headers "content-length".toList = some value ∧ value ≠ [] ∧
    AllDigits 10 value ∧ digitsValue 10 0 value = length

/-- A numeral is read if it is a `usize`. -/
theorem contentLength_of_declaresLength {headers : HeaderFields} {length : Nat}
    (declares : DeclaresLength headers length) :
    contentLength headers =
      if length < usizeLimit then .ok length
      else .error (parseErr "invalid content-length") := by
  obtain ⟨value, field, nonempty, digits, rfl⟩ := declares
  unfold contentLength
  rw [field]
  dsimp only
  by_cases fits : digitsValue 10 0 value < usizeLimit
  · rw [if_pos fits, parseUnsigned, fromStrRadix_digits (by decide) nonempty digits fits]
  · rw [if_neg fits]
    cases parsed : parseUnsigned usizeLimit value with
    | none => rfl
    | some number =>
        have read := (fromStrRadix_eq_some_iff (by decide) (by decide) nonempty digits).mp
          parsed
        omega

namespace Request

/-- An accepted request is what was delivered, and its body is as long as
declared and no longer than allowed. -/
theorem delivered_fromStream {limits : Limits} {stream : σ} {request : Request}
    {final : Recorder σ}
    (answer : fromStream limits (Recorder.new stream) = (.ok request, final)) :
    request.toBytes = delivered final.calls ∧
      ∃ declared, contentLength request.headers = .ok declared ∧
        declared ≤ request.body.length ∧ request.body.length ≤ limits.maxBodyBytes := by
  obtain ⟨bodyPrefix, rest, declared, scanned, _, parsedLength, declaredFits, prefixFits,
    kept⟩ := fromStream_eq_ok answer
  obtain ⟨taken, total, whole⟩ := delivered_readHeaderLoop scanned
  have scanTotal : delivered rest.calls = request.rawHead ++ bodyPrefix := by
    rw [total, whole]
    rfl
  rcases kept with ⟨covered, body, rfl⟩ | ⟨more, missing, filled, body⟩
  · constructor
    · rw [toBytes, body, scanTotal]
    · exact ⟨declared, parsedLength, by rwa [body], by rwa [body]⟩
  · have length : request.body.length = declared := by
      rw [body, List.length_append, more.property]
      omega
    constructor
    · rw [toBytes, body, delivered_readFull filled, scanTotal, List.append_assoc]
    · exact ⟨declared, parsedLength, by omega, by omega⟩

/-- Whatever is decided about the declared length alone is decided on the
reader that the scan left. -/
theorem fromStream_of_length_error {limits : Limits} {stream rest : σ}
    {head bodyPrefix : Bytes} {method : HttpMethod} {path : Text} {headers : HeaderFields}
    (scanned : readHeaderBlock limits.maxHeaderBytes stream =
      (.ok (head, bodyPrefix), rest))
    (parsedHead : parseHead head = .ok (method, path, headers)) :
    (∀ declared, Mzani.contentLength headers = .ok declared →
        limits.maxBodyBytes < declared →
          fromStream limits stream = (.error .bodyTooLarge, rest)) ∧
      ∀ error, Mzani.contentLength headers = .error error →
        fromStream limits stream = (.error error, rest) := by
  constructor
  · intro declared parsed large
    rw [fromStream, Reading.bind_of_ok scanned]
    simp only [parsedHead, parsed, Reading.ofExcept_ok_bind]
    rw [if_pos large]
    rfl
  · intro error refused
    rw [fromStream, Reading.bind_of_ok scanned]
    simp only [parsedHead, refused, Reading.ofExcept_ok_bind]
    rfl

/-- Reading a request is lossless and bounded, over every reader. -/
theorem fromStream_lossless (limits : Limits) (stream : σ) :
    (∃ calls,
      fromStream limits (Recorder.new stream) =
          ((fromStream limits stream).1,
            { inner := (fromStream limits stream).2, calls }) ∧
        ∀ request, (fromStream limits stream).1 = .ok request →
          request.toBytes = delivered calls ∧
            ∃ declared, contentLength request.headers = .ok declared ∧
              declared ≤ request.body.length ∧
              request.body.length ≤ limits.maxBodyBytes) ∧
      ∀ head bodyPrefix afterScan method path headers,
        readHeaderBlock limits.maxHeaderBytes (Recorder.new stream) =
            (.ok (head, bodyPrefix), afterScan) →
          parseHead head = .ok (method, path, headers) →
            (∀ declared, contentLength headers = .ok declared →
                limits.maxBodyBytes < declared →
                  fromStream limits (Recorder.new stream) =
                    (.error .bodyTooLarge, afterScan)) ∧
              ∀ declared, DeclaresLength headers declared → usizeLimit ≤ declared →
                fromStream limits (Recorder.new stream) =
                  (.error (parseErr "invalid content-length"), afterScan) := by
  constructor
  · have run := Recorder.recorded (carried_fromStream Recorder.readerMap_inner limits) stream
    refine ⟨_, run, ?_⟩
    intro request answer
    exact delivered_fromStream (Prod.ext ((congrArg Prod.fst run).trans answer) rfl)
  · intro head bodyPrefix afterScan method path headers scanned parsedHead
    obtain ⟨tooLarge, refused⟩ := fromStream_of_length_error scanned parsedHead
    refine ⟨tooLarge, ?_⟩
    intro declared declares huge
    apply refused
    rw [contentLength_of_declaresLength declares, if_neg (Nat.not_lt.mpr huge)]

/-- A request with a body of five bytes, three of them in the first read. -/
def helloHead : Bytes := toUtf8 "POST / HTTP/1.1\r\nContent-Length: 5\r\n\r\n".toList

def helloStream : Source :=
  [.ok ⟨helloHead ++ toUtf8 "hel".toList, by decide⟩, .ok ⟨toUtf8 "lo".toList, by decide⟩]

def helloRequest : Request where
  method := .post
  path := "/".toList
  headers := [("Content-Length".toList, "5".toList)]
  body := toUtf8 "hello".toList
  rawHead := helloHead

/-- A head that declares one byte more than a `usize` can count. -/
def hugeHead : Bytes :=
  toUtf8 "POST / HTTP/1.1\r\nContent-Length: 18446744073709551616\r\n\r\n".toList

def hugeFields : HeaderFields :=
  [("Content-Length".toList, "18446744073709551616".toList)]

theorem declaresLength_hugeFields : DeclaresLength hugeFields usizeLimit := by
  refine ⟨"18446744073709551616".toList, ?_, ?_, ?_, ?_⟩
  all_goals decide +kernel

def hugeStream : Source := [.ok ⟨hugeHead, by decide⟩]

theorem fromStream_lossless_hello :
    (∃ calls,
      fromStream {} (Recorder.new helloStream) =
          (.ok helloRequest, { inner := (fromStream {} helloStream).2, calls }) ∧
        helloRequest.toBytes = delivered calls) ∧
      (∃ afterScan,
        readHeaderBlock 100 (Recorder.new helloStream) =
            (.ok (helloHead, toUtf8 "hel".toList), afterScan) ∧
          fromStream { maxHeaderBytes := 100, maxBodyBytes := 4 } (Recorder.new helloStream) =
            (.error .bodyTooLarge, afterScan)) ∧
      ∃ afterScan,
        readHeaderBlock 100 (Recorder.new hugeStream) =
            (.ok (hugeHead, []), afterScan) ∧
          fromStream { maxHeaderBytes := 100 } (Recorder.new hugeStream) =
            (.error (parseErr "invalid content-length"), afterScan) := by
  have hello : (fromStream {} helloStream).1 = .ok helloRequest := by decide +kernel
  have helloScan : (readHeaderBlock 100 (Recorder.new helloStream)).1 =
      .ok (helloHead, toUtf8 "hel".toList) := by decide +kernel
  have helloParsed : parseHead helloHead =
      .ok (.post, "/".toList, helloRequest.headers) := by decide +kernel
  have helloLength : Mzani.contentLength helloRequest.headers = .ok 5 := by decide +kernel
  have hugeScan : (readHeaderBlock 100 (Recorder.new hugeStream)).1 =
      .ok (hugeHead, []) := by decide +kernel
  have hugeParsed : parseHead hugeHead = .ok (.post, "/".toList, hugeFields) := by
    decide +kernel
  refine ⟨?_, ⟨_, Prod.ext helloScan rfl, ?_⟩, ⟨_, Prod.ext hugeScan rfl, ?_⟩⟩
  · obtain ⟨calls, run, lossless⟩ := (fromStream_lossless {} helloStream).1
    rw [hello] at run
    exact ⟨calls, run, (lossless helloRequest hello).1⟩
  · exact ((fromStream_lossless { maxHeaderBytes := 100, maxBodyBytes := 4 } helloStream).2
      _ _ _ _ _ _ (Prod.ext helloScan rfl) helloParsed).1 5 helloLength (by decide)
  · exact ((fromStream_lossless { maxHeaderBytes := 100 } hugeStream).2
      _ _ _ _ _ _ (Prod.ext hugeScan rfl) hugeParsed).2 usizeLimit
      declaresLength_hugeFields (Nat.le_refl _)

/-- A declared length over the limit that is not reported as such. -/
theorem huge_length_unreported :
    parseHead hugeHead = .ok (.post, "/".toList, hugeFields) ∧
      DeclaresLength hugeFields usizeLimit ∧
      ({} : Limits).maxBodyBytes < usizeLimit ∧
      (fromStream {} hugeStream).1 = .error (parseErr "invalid content-length") := by
  refine ⟨?_, declaresLength_hugeFields, by decide, ?_⟩
  all_goals decide +kernel

end Request

end

end Mzani
