import Mzani.Core.MessageHead

/-!
# Request framing

Where the body of an accepted request ends.  `from_stream` keeps everything
the header scan read past the head, so the declared length is respected
exactly if the read that completes the head delivers no more than that.
-/

namespace Mzani

open Support

theorem takeExact_readFull {σ : Type} [ByteStream σ] {need : Nat} {stream last : σ}
    {bytes : { bytes : Bytes // bytes.length = need }}
    (answer : readFull need stream = (.ok bytes, last)) :
    takeExact need (ByteStream.items stream) = (.ok bytes.val, ByteStream.items last) := by
  rw [Refines.readExact need stream, readExact_of_readFull answer]

theorem contentLength_eq_ok_iff {headers : HeaderFields} {declared : Nat} :
    contentLength headers = .ok declared ↔
      (headerField headers "content-length".toList = none ∧ declared = 0) ∨
        ∃ value, headerField headers "content-length".toList = some value ∧
          parseUnsigned usizeLimit value = some declared := by
  unfold contentLength
  cases headerField headers "content-length".toList with
  | none => simp [eq_comm]
  | some value => cases parsed : parseUnsigned usizeLimit value <;> simp [parsed]

theorem contentLength_lt {headers : HeaderFields} {declared : Nat}
    (parsed : contentLength headers = .ok declared) : declared < usizeLimit := by
  rcases contentLength_eq_ok_iff.mp parsed with ⟨_, rfl⟩ | ⟨value, _, number⟩
  · decide
  · obtain ⟨_, _, _, _, _, small⟩ := fromStrRadix_some (by decide) (by decide) number
    exact small

namespace Request

/-- The steps of a successful run. -/
theorem fromStream_eq_ok {σ : Type} [Read σ] {limits : Limits} {stream final : σ}
    {request : Request} (answer : fromStream limits stream = (.ok request, final)) :
    ∃ bodyPrefix rest declared,
      readHeaderBlock limits.maxHeaderBytes stream =
          (.ok (request.rawHead, bodyPrefix), rest) ∧
        parseHead request.rawHead =
          .ok (request.method, request.path, request.headers) ∧
        contentLength request.headers = .ok declared ∧
        declared ≤ limits.maxBodyBytes ∧ bodyPrefix.length ≤ limits.maxBodyBytes ∧
        ((declared ≤ bodyPrefix.length ∧ request.body = bodyPrefix ∧ final = rest) ∨
          ∃ more, bodyPrefix.length < declared ∧
            readFull (declared - bodyPrefix.length) rest = (.ok more, final) ∧
            request.body = bodyPrefix ++ more.val) := by
  rw [fromStream] at answer
  obtain ⟨⟨head, bodyPrefix⟩, rest, scanned, afterScan⟩ := Reading.bind_eq_ok_iff.mp answer
  obtain ⟨⟨method, path, headers⟩, _, headRead, afterHead⟩ :=
    Reading.bind_eq_ok_iff.mp afterScan
  obtain ⟨declared, _, lengthRead, afterLength⟩ := Reading.bind_eq_ok_iff.mp afterHead
  obtain ⟨parsedHead, rfl⟩ := Prod.mk.inj headRead
  obtain ⟨parsedLength, rfl⟩ := Prod.mk.inj lengthRead
  by_cases large : limits.maxBodyBytes < declared
  · simp [large] at afterLength
  · by_cases prefixLarge : limits.maxBodyBytes < bodyPrefix.length
    · simp [large, prefixLarge] at afterLength
    · rw [if_neg large, if_neg prefixLarge] at afterLength
      by_cases remaining : 0 < declared - bodyPrefix.length
      · rw [if_pos remaining] at afterLength
        obtain ⟨more, last, filled, built⟩ := Reading.bind_eq_ok_iff.mp afterLength
        obtain ⟨⟨rfl⟩, rfl⟩ := Prod.mk.inj built
        exact ⟨bodyPrefix, rest, declared, scanned, parsedHead, parsedLength, by omega,
          by omega, Or.inr ⟨more, by omega, filled, rfl⟩⟩
      · rw [if_neg remaining] at afterLength
        obtain ⟨⟨rfl⟩, rfl⟩ := Prod.mk.inj afterLength
        exact ⟨bodyPrefix, rest, declared, scanned, parsedHead, parsedLength, by omega,
          by omega, Or.inl ⟨by omega, rfl, rfl⟩⟩

variable {σ : Type} [ByteStream σ]

theorem fromStream_ok {limits : Limits} {stream : σ} {request : Request}
    (answer : (fromStream limits stream).1 = .ok request) :
    ∃ bodyPrefix rest declared,
      readHeaderBlock limits.maxHeaderBytes stream =
          (.ok (request.rawHead, bodyPrefix), rest) ∧
        parseHead request.rawHead =
          .ok (request.method, request.path, request.headers) ∧
        contentLength request.headers = .ok declared ∧
        ((declared ≤ bodyPrefix.length ∧ request.body = bodyPrefix) ∨
          ∃ more last, bodyPrefix.length < declared ∧
            readFull (declared - bodyPrefix.length) rest = (.ok more, last) ∧
            request.body = bodyPrefix ++ more.val) := by
  obtain ⟨bodyPrefix, rest, declared, scanned, parsedHead, parsedLength, _, _, kept⟩ :=
    fromStream_eq_ok (Prod.ext answer rfl)
  refine ⟨bodyPrefix, rest, declared, scanned, parsedHead, parsedLength, ?_⟩
  rcases kept with ⟨covered, body, _⟩ | ⟨more, missing, filled, body⟩
  · exact Or.inl ⟨covered, body⟩
  · exact Or.inr ⟨more, _, missing, filled, body⟩

/-- What was read past the head is kept, whatever length was declared. -/
theorem fromStream_excess {limits : Limits} {stream rest : σ} {head bodyPrefix : Bytes}
    {method : HttpMethod} {path : Text} {headers : HeaderFields} {declared : Nat}
    (scanned : readHeaderBlock limits.maxHeaderBytes stream =
      (.ok (head, bodyPrefix), rest))
    (parsedHead : parseHead head = .ok (method, path, headers))
    (parsedLength : Mzani.contentLength headers = .ok declared)
    (declaredFits : declared ≤ limits.maxBodyBytes)
    (prefixFits : bodyPrefix.length ≤ limits.maxBodyBytes)
    (covered : declared ≤ bodyPrefix.length) :
    (fromStream limits stream).1 =
      .ok { method, path, headers, body := bodyPrefix, rawHead := head } := by
  rw [fromStream, Reading.bind_of_ok scanned]
  simp only [parsedHead, parsedLength, Reading.ofExcept_ok_bind]
  rw [if_neg (by omega), if_neg (by omega), if_neg (by omega)]
  rfl

/-! ## The body is what was declared -/

/-- An accepted request is the head and the declared number of bytes after
it, interrupted reads skipped. -/
def FramesExactly (limits : Limits) (stream : σ) : Prop :=
  ∀ request, (fromStream limits stream).1 = .ok request →
    ∃ head tail declared, IsHead head ∧
      ByteStream.items stream = head.map .byte ++ tail ∧
      contentLength request.headers = .ok declared ∧
      (takeExact declared tail).1 = .ok request.body ∧
      request.toBytes = head ++ request.body

/-- The stream starts with a parsable head that declares a body length, and
the read that completes the head delivers `past` bytes more. -/
def Delivers (stream : σ) (declared past : Nat) : Prop :=
  ∃ head tail method path headers before, IsHead head ∧
    ByteStream.items stream = head.map .byte ++ tail ∧
    fetch 4096 head.length stream = some (before, past) ∧ before < usizeLimit ∧
    parseHead head = .ok (method, path, headers) ∧
    contentLength headers = .ok declared

theorem framesExactly_of_within {limits : Limits} {stream : σ}
    (within : ∀ declared past, Delivers stream declared past → past ≤ declared) :
    FramesExactly limits stream := by
  intro request answer
  obtain ⟨bodyPrefix, rest, declared, scanned, parsedHead, parsedLength, body⟩ :=
    fromStream_ok answer
  obtain ⟨split, isHead, _⟩ := readHeaderBlock_ok scanned
  obtain ⟨before, fetched, fits⟩ := readHeaderBlock_fetch scanned
  rw [List.map_append, List.append_assoc] at split
  have small : before < usizeLimit :=
    Nat.lt_of_le_of_lt fits limits.maxHeaderBytes.isLt
  have covered := within declared bodyPrefix.length
    ⟨request.rawHead, _, _, _, _, before, isHead, split, fetched, small, parsedHead,
      parsedLength⟩
  refine ⟨request.rawHead, _, declared, isHead, split, parsedLength, ?_, rfl⟩
  rw [← Nat.add_sub_cancel' covered,
    takeExact_append bodyPrefix.length _ bodyPrefix rfl]
  rcases body with ⟨enough, same⟩ | ⟨more, last, _, filled, same⟩
  · rw [Nat.sub_eq_zero_of_le enough, same]
    simp [takeExact]
  · rw [takeExact_readFull filled, same]

theorem within_of_framesExactly {stream : σ}
    (exact : ∀ limits, FramesExactly limits stream) {declared past : Nat}
    (delivers : Delivers stream declared past) : past ≤ declared := by
  obtain ⟨head, tail, method, path, headers, before, isHead, content, fetched, small,
    parsedHead, parsedLength⟩ := delivers
  by_contra excess
  have inLimit : before ≤ Limits.largest.maxHeaderBytes := Nat.le_of_lt_succ small
  obtain ⟨bodyPrefix, rest, scanned, split, length⟩ :=
    readHeaderBlock_fetched isHead content fetched inLimit
  have short := (readHeaderBlock_ok scanned).2.2
  have declaredSmall := contentLength_lt parsedLength
  have bodyLimit : (Limits.largest.maxBodyBytes : Nat) = usizeLimit - 1 := rfl
  have limit : usizeLimit = 2 ^ 64 := rfl
  have answer := fromStream_excess scanned parsedHead parsedLength (by omega) (by omega)
    (by omega)
  obtain ⟨head', tail', declared', isHead', content', parsedLength', taken, _⟩ :=
    exact Limits.largest _ answer
  obtain rfl : declared = declared' :=
    Except.ok.inj (parsedLength.symm.trans parsedLength')
  have exactLength := length_of_takeExact taken
  change bodyPrefix.length = declared at exactLength
  omega

/-- The declared length is respected under all limits exactly if the read that
completes the head delivers no more than it; then the split of the stream does
not show in the forwarded request. -/
theorem fromStream_exact_iff (stream : σ) :
    ((∀ limits, FramesExactly limits stream) ↔
      ∀ declared past, Delivers stream declared past → past ≤ declared) ∧
      ∀ {τ : Type} [ByteStream τ] (other : τ),
        ByteStream.items other = ByteStream.items stream →
          (∀ declared past, Delivers stream declared past → past ≤ declared) →
          (∀ declared past, Delivers other declared past → past ≤ declared) →
            ∀ {limits : Limits} {request request' : Request},
              (fromStream limits stream).1 = .ok request →
                (fromStream limits other).1 = .ok request' →
                  request.toBytes = request'.toBytes := by
  refine ⟨⟨fun exact _ _ delivers => within_of_framesExactly exact delivers,
    fun within limits => framesExactly_of_within within⟩, ?_⟩
  intro τ _ other sameContent within otherWithin limits request request' answer otherAnswer
  obtain ⟨head, tail, declared, isHead, content, parsed, taken, bytes⟩ :=
    framesExactly_of_within within request answer
  obtain ⟨head', tail', declared', isHead', content', parsed', taken', bytes'⟩ :=
    framesExactly_of_within otherWithin request' otherAnswer
  obtain ⟨rfl, rfl⟩ := isHead.unique_content isHead'
    (content.symm.trans (sameContent.symm.trans content'))
  have rawHead : request.rawHead = request'.rawHead :=
    (List.append_cancel_right bytes).trans (List.append_cancel_right bytes').symm
  obtain ⟨_, _, _, _, parsedHead, _⟩ := fromStream_ok answer
  obtain ⟨_, _, _, _, parsedHead', _⟩ := fromStream_ok otherAnswer
  rw [rawHead, parsedHead'] at parsedHead
  simp only [Except.ok.injEq, Prod.mk.injEq] at parsedHead
  rw [← parsedHead.2.2, parsed', Except.ok.injEq] at parsed
  rw [← parsed, taken', Except.ok.injEq] at taken
  rw [bytes, bytes', taken]

/-- A stream that delivers one byte a read frames every request exactly. -/
theorem within_of_content (content : List Item) (declared past : Nat)
    (delivers : Delivers content declared past) : past ≤ declared := by
  obtain ⟨head, _, _, _, _, _, isHead, _, fetched, _⟩ := delivers
  have nothing := fetch_content (List.length_pos_iff.mpr isHead.ne_nil) fetched
  omega

/-- Two requests in one read: the first declares two bytes of body. -/
def pipelined : Source :=
  [.ok ⟨toUtf8 ("POST / HTTP/1.1\r\nContent-Length: 2\r\n\r\nhi" ++
    "GET /x HTTP/1.1\r\n\r\n").toList, by decide⟩]

theorem fromStream_exact_bytewise : FramesExactly {} pipelined.items :=
  (fromStream_exact_iff pipelined.items).1.mpr
    (fun declared past delivers => within_of_content pipelined.items declared past delivers) {}

/-- The request that is read there. -/
def smuggling : Request where
  method := .post
  path := "/".toList
  headers := [("Content-Length".toList, "2".toList)]
  body := toUtf8 "hiGET /x HTTP/1.1\r\n\r\n".toList
  rawHead := toUtf8 "POST / HTTP/1.1\r\nContent-Length: 2\r\n\r\n".toList

/-- The second request rides along as the body of the first, but not if the
bytes come one by one. -/
theorem pipelined_forwarded :
    (fromStream ({} : Limits) pipelined).1 = .ok smuggling ∧
      contentLength smuggling.headers = .ok 2 ∧
      (fromStream ({} : Limits) pipelined.items).1.map toBytes =
        .ok (toUtf8 "POST / HTTP/1.1\r\nContent-Length: 2\r\n\r\nhi".toList) ∧
      ¬FramesExactly {} pipelined := by
  have answer : (fromStream ({} : Limits) pipelined).1 = .ok smuggling := by
    decide +kernel
  have declaredTwo : contentLength smuggling.headers = .ok 2 := by decide +kernel
  refine ⟨answer, declaredTwo, by decide +kernel, fun exact => ?_⟩
  obtain ⟨head, tail, declared, _, _, parsed, taken, _⟩ := exact smuggling answer
  obtain rfl := Except.ok.inj (declaredTwo.symm.trans parsed)
  have short := length_of_takeExact taken
  exact absurd short (by decide)

end Request

end Mzani
