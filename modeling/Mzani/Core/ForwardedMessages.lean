import Mzani.Core.RequestFraming
import Mzani.Core.ResponseForwarding

/-!
# Forwarded messages that are read again

What another balancer makes of a request that is sent on to it, and of a response
that comes back through it.
-/

namespace Mzani

open Support

/-! ## Requests -/

namespace Request

/-- The second request is the first one, perhaps without some of the bytes past its
declared end. -/
structure Shortens (request again : Request) : Prop where
  method : again.method = request.method
  path : again.path = request.path
  headers : again.headers = request.headers
  rawHead : again.rawHead = request.rawHead
  body : again.body <+: request.body
  declared : ∀ declared, contentLength request.headers = .ok declared →
    declared ≤ again.body.length

variable {request again : Request}

theorem Shortens.toBytes (shortens : request.Shortens again) :
    again.toBytes <+: request.toBytes := by
  obtain ⟨rest, same⟩ := shortens.body
  refine ⟨rest, ?_⟩
  rw [Request.toBytes, Request.toBytes, shortens.rawHead, ← same, List.append_assoc]

/-- A request whose body ends where it is declared to end is kept. -/
theorem Shortens.eq_of_exact (shortens : request.Shortens again)
    (exact : contentLength request.headers = .ok request.body.length) : again = request := by
  have long := shortens.declared request.body.length exact
  have body := shortens.body.eq_of_length (Nat.le_antisymm shortens.body.length_le long)
  cases again
  cases request
  obtain ⟨rfl, rfl, rfl, rfl, _, _⟩ := shortens
  cases body
  rfl

/-- An accepted request has its head, and at least the body that it declares. -/
structure Accepted (request : Request) : Prop where
  isHead : IsHead request.rawHead
  parsed : parseHead request.rawHead = .ok (request.method, request.path, request.headers)
  declared : ∃ declared, contentLength request.headers = .ok declared ∧
    declared ≤ request.body.length

theorem Shortens.refl (accepted : request.Accepted) : request.Shortens request := by
  obtain ⟨length, hasLength, enough⟩ := accepted.declared
  refine ⟨rfl, rfl, rfl, rfl, List.prefix_refl _, ?_⟩
  intro declared hasDeclared
  obtain rfl := Except.ok.inj (hasLength.symm.trans hasDeclared)
  exact enough

theorem Shortens.trans {last : Request} (first : request.Shortens again)
    (second : again.Shortens last) : request.Shortens last := by
  constructor
  · exact second.method.trans first.method
  · exact second.path.trans first.path
  · exact second.headers.trans first.headers
  · exact second.rawHead.trans first.rawHead
  · exact second.body.trans first.body
  · intro declared hasDeclared
    rw [← first.headers] at hasDeclared
    exact second.declared declared hasDeclared

section

variable {σ : Type} [ByteStream σ] {limits : Limits} {stream : σ} {tail : List Item}

theorem accepted_of_fromStream (answer : (fromStream limits stream).1 = .ok request) :
    request.Accepted := by
  obtain ⟨bodyPrefix, rest, declared, scanned, parsed, parsedLength, kept⟩ := fromStream_ok answer
  refine ⟨(readHeaderBlock_ok scanned).2.1, parsed, declared, parsedLength, ?_⟩
  rcases kept with ⟨covered, body⟩ | ⟨more, last, missing, _, body⟩
  · rwa [body]
  · rw [body, List.length_append, more.property]
    omega

/-- What was missing is read after the head. -/
theorem fromStream_filled {rest : σ} {head bodyPrefix : Bytes} {method : HttpMethod} {path : Text}
    {headers : HeaderFields} {declared : Nat}
    {more : { bytes : Bytes // bytes.length = declared - bodyPrefix.length }}
    (scanned : readHeaderBlock limits.maxHeaderBytes stream = (.ok (head, bodyPrefix), rest))
    (parsedHead : parseHead head = .ok (method, path, headers))
    (parsedLength : Mzani.contentLength headers = .ok declared)
    (declaredFits : declared ≤ limits.maxBodyBytes) (missing : bodyPrefix.length < declared)
    (filled : (readFull (declared - bodyPrefix.length) rest).1 = .ok more) :
    (fromStream limits stream).1 =
      .ok { method, path, headers, body := bodyPrefix ++ more.val, rawHead := head } := by
  rw [fromStream, Reading.bind_of_ok scanned]
  simp only [parsedHead, parsedLength, Reading.ofExcept_ok_bind]
  rw [if_neg (by omega), if_neg (by omega), if_pos (by omega),
    Reading.bind_of_ok (Prod.ext filled rfl)]
  rfl

/-- The scan of a forwarded request takes some of its body, and the rest of the body
follows. -/
theorem body_of_scanned {rest : σ} {head bodyPrefix body : Bytes} (stops : Stops tail)
    (content : ByteStream.items stream = (head ++ body).map .byte ++ tail)
    (scanned : readHeaderBlock limits.maxHeaderBytes stream = (.ok (head, bodyPrefix), rest)) :
    ∃ more, body = bodyPrefix ++ more ∧ ByteStream.items rest = more.map .byte ++ tail := by
  have split := (readHeaderBlock_ok scanned).1
  rw [content, List.map_append, List.map_append, List.append_assoc, List.append_assoc] at split
  rcases bytes_append_cases (List.append_cancel_left split) with
    ⟨extra, rfl, tailSplit⟩ | ⟨more, same, restSplit⟩
  · cases extra with
    | nil => exact ⟨[], by simp, by simpa using tailSplit.symm⟩
    | cons value extra => exact absurd (by rw [tailSplit]; rfl) (stops value)
  · exact ⟨more, same, restSplit⟩

/-- What is there is read. -/
theorem readFull_of_content {need : Nat} {more : Bytes} (enough : need ≤ more.length)
    (content : ByteStream.items stream = more.map .byte ++ tail) :
    (readFull need stream).1 =
      .ok ⟨more.take need, by rw [List.length_take, Nat.min_eq_left enough]⟩ := by
  have split : ByteStream.items stream =
      (more.take need).map .byte ++ ((more.drop need).map .byte ++ tail) := by
    rw [content, ← List.append_assoc, ← List.map_append, List.take_append_drop]
  have answer := refines_readFull need stream
  rw [split, readFull_bytes (by rw [List.length_take, Nat.min_eq_left enough])] at answer
  exact (congrArg Prod.fst answer).symm

/-- Another balancer accepts a request that is sent on to it, if its limits allow
that. -/
theorem exists_again (accepted : request.Accepted) (stops : Stops tail)
    (content : ByteStream.items stream = request.toBytes.map .byte ++ tail)
    (headFits : request.rawHead.length ≤ limits.maxHeaderBytes + 1)
    (bodyFits : request.body.length ≤ limits.maxBodyBytes) :
    ∃ again, (fromStream limits stream).1 = .ok again := by
  obtain ⟨declared, parsedLength, enough⟩ := accepted.declared
  have headContent := content
  rw [toBytes, List.map_append, List.append_assoc] at headContent
  obtain ⟨bodyPrefix, rest, scanned, _⟩ :=
    readHeaderBlock_finds accepted.isHead headFits headContent
  obtain ⟨more, body, left⟩ := body_of_scanned stops content scanned
  rw [body, List.length_append] at enough bodyFits
  by_cases covered : declared ≤ bodyPrefix.length
  · exact ⟨_, fromStream_excess scanned accepted.parsed parsedLength (by omega) (by omega) covered⟩
  · have missing : declared - bodyPrefix.length ≤ more.length := by omega
    exact ⟨_, fromStream_filled scanned accepted.parsed parsedLength (by omega) (by omega)
      (readFull_of_content missing left)⟩

/-- A request that is sent on is read as itself, perhaps without some of the bytes
past its declared end. -/
theorem shortens_of_fromStream (accepted : request.Accepted) (stops : Stops tail)
    (content : ByteStream.items stream = request.toBytes.map .byte ++ tail)
    (answer : (fromStream limits stream).1 = .ok again) : request.Shortens again := by
  obtain ⟨bodyPrefix, rest, declared, scanned, parsed, parsedLength, kept⟩ := fromStream_ok answer
  obtain ⟨split, isHead, _⟩ := readHeaderBlock_ok scanned
  have headContent := content
  rw [toBytes, List.map_append, List.append_assoc] at headContent
  rw [headContent, List.map_append, List.append_assoc] at split
  obtain ⟨rawHead, _⟩ := accepted.isHead.unique_content isHead split
  rw [← rawHead] at scanned parsed
  have sameHead := accepted.parsed.symm.trans parsed
  simp only [Except.ok.injEq, Prod.mk.injEq] at sameHead
  obtain ⟨method, path, headers⟩ := sameHead
  obtain ⟨length, hasLength, enough⟩ := accepted.declared
  obtain rfl : length = declared := by
    rw [headers] at hasLength
    exact Except.ok.inj (hasLength.symm.trans parsedLength)
  obtain ⟨more, body, left⟩ := body_of_scanned stops content scanned
  have shortened : again.body <+: request.body ∧ length ≤ again.body.length := by
    rcases kept with ⟨covered, kept⟩ | ⟨taken, last, missing, filled, kept⟩
    · rw [kept, body]
      exact ⟨List.prefix_append _ _, covered⟩
    · rw [body, List.length_append] at enough
      have there : length - bodyPrefix.length ≤ more.length := by omega
      have read := readFull_of_content there left
      rw [filled] at read
      have same : taken.val = more.take (length - bodyPrefix.length) :=
        congrArg Subtype.val (Except.ok.inj read)
      constructor
      · rw [kept, body, same]
        exact List.prefix_append_right_inj _ |>.mpr (List.take_prefix _ _)
      · rw [kept, List.length_append, taken.property]
        omega
  constructor
  · exact method.symm
  · exact path.symm
  · exact headers.symm
  · exact rawHead.symm
  · exact shortened.1
  · intro declared hasDeclared
    obtain rfl := Except.ok.inj (hasLength.symm.trans hasDeclared)
    exact shortened.2

end

end Request

/-! ## Responses -/

/-- The head and the body of the message are within the limits. -/
def ResponseFits (limits : Limits) (out : Bytes) : Prop :=
  ∀ head body, out = head ++ body → IsHead head →
    head.length ≤ limits.maxHeaderBytes ∧ body.length ≤ limits.maxResponseBytes

/-- A returned response is read as itself under all limits that it fits. -/
theorem readHttpResponse_back {σ τ : Type} [ByteStream σ] [ByteStream τ] {limits other : Limits}
    {stream : σ} {again : τ} {out : Bytes} {tail : List Item}
    (answer : (readHttpResponse limits stream).1 = .ok out) (fits : ResponseFits other out)
    (content : ByteStream.items again = out.map .byte ++ tail) :
    (readHttpResponse other again).1 = .ok out := by
  obtain ⟨rawHead, bodyPrefix, rest, fields, status, mode, body, scanned, parsedFields,
    parsedStatus, _, _, encoded⟩ := readHttpResponse_ok answer
  cases hasBody : hasNoBody status with
  | true =>
      rw [encodeForwardedResponse, if_pos hasBody, Except.ok.injEq] at encoded
      subst encoded
      have isHead := (readHeaderBlock_ok scanned).2.1
      have headFits := (fits rawHead [] (List.append_nil _).symm isHead).1
      exact readHttpResponse_bodyless hasBody isHead parsedFields parsedStatus headFits content
  | false =>
      obtain ⟨statusLine, newlineFree, hasStatus, rfl⟩ :=
        encodeForwardedResponse_head hasBody parsedStatus encoded
      have readFields := readField_of_parseHeaderFields parsedFields
      obtain ⟨headFits, bodyFits⟩ := fits _ body rfl
        (isHead_forwardedHead newlineFree hasStatus readFields body.length)
      exact readHttpResponse_forwarded hasBody newlineFree hasStatus readFields headFits bodyFits
        content

end Mzani
