import Mzani.Core.ResponseForwarding

/-!
# Accepted responses

A response that `read_http_response` accepts, with everything that is read on
the way, and the message that is sent on in its place.
-/

namespace Mzani

open Support

/-- A run of `read_http_response` up to the encoder. -/
structure AcceptedResponse {σ : Type} [Read σ] (limits : Limits) (stream : σ) where
  rawHead : Bytes
  bodyPrefix : Bytes
  rest : σ
  fields : HeaderFields
  status : Nat
  mode : BodyMode
  body : Bytes
  scanned : readHeaderBlock limits.maxHeaderBytes stream = (.ok (rawHead, bodyPrefix), rest)
  parsedFields : parseHeaderFields rawHead = .ok fields
  parsedStatus : parseStatusCode rawHead = .ok status
  hasMode : bodyMode fields status = .ok mode
  bodyRead : (readBody mode limits.maxResponseBytes (PrefixReader.new bodyPrefix rest)).1 =
    .ok body

/-- A head that the scan returns ends with the terminator. -/
theorem headerEnd_isSuffix {σ : Type} [Read σ] {maxHeaderBytes : Nat} {buf head bodyPrefix : Bytes}
    {stream rest : σ}
    (answer : readHeaderLoop maxHeaderBytes buf stream = (.ok (head, bodyPrefix), rest)) :
    headerEnd <:+ head := by
  induction buf using readHeaderLoop.induct maxHeaderBytes generalizing stream with
  | case1 buf full =>
      rw [readHeaderLoop_step, if_pos full] at answer
      simp at answer
  | case2 buf within induction =>
      rw [readHeaderLoop_step, if_neg within] at answer
      split at answer
      case h_1 => simp at answer
      case h_2 chunk next read =>
          split at answer
          case isTrue => simp at answer
          case isFalse more =>
              split at answer
              case h_1 index found =>
                  simp only [Prod.mk.injEq, Except.ok.injEq] at answer
                  rw [← answer.1.1]
                  exact (findSubslice_eq_some headerEnd_ne_nil found).2.1
              case h_2 => exact induction chunk more answer

namespace AcceptedResponse

section

variable {σ : Type} [Read σ] {limits : Limits} {stream : σ}

section

variable (response : AcceptedResponse limits stream)

/-- The text of the head. -/
def text : Text :=
  (fromUtf8 response.rawHead).getD []

/-- The text up to the first line feed. -/
def statusLine : Text :=
  (firstLine response.text).getD []

/-- The lines of the head that is sent on with a body. -/
def sentLines : List Text :=
  response.statusLine :: ((otherFields response.fields).map formatField ++
    [formatContentLength response.body.length])

/-- The head that is sent on. -/
def sentHead : Text :=
  if hasNoBody response.status = true then response.text
  else joinPair '\r' '\n' response.sentLines ++ crlf ++ crlf

def sentBody : Bytes :=
  if hasNoBody response.status = true then [] else response.body

/-- The message that is sent on. -/
def out : Bytes :=
  toUtf8 response.sentHead ++ response.sentBody

theorem fromUtf8_rawHead : fromUtf8 response.rawHead = some response.text := by
  obtain ⟨head, _, decoded, _⟩ := parseStatusCode_eq_ok_iff.mp response.parsedStatus
  rw [text, decoded, Option.getD_some]

theorem toUtf8_text : toUtf8 response.text = response.rawHead :=
  toUtf8_of_fromUtf8 response.fromUtf8_rawHead

theorem firstLine_text : firstLine response.text = some response.statusLine := by
  obtain ⟨head, line, decoded, first, _⟩ := parseStatusCode_eq_ok_iff.mp response.parsedStatus
  rw [response.fromUtf8_rawHead, Option.some.injEq] at decoded
  rw [statusLine, decoded, first, Option.getD_some]

theorem hasStatus : HasStatus response.statusLine response.status := by
  obtain ⟨head, line, decoded, first, hasStatus⟩ :=
    parseStatusCode_eq_ok_iff.mp response.parsedStatus
  rw [response.fromUtf8_rawHead, Option.some.injEq] at decoded
  rw [← decoded, response.firstLine_text, Option.some.injEq] at first
  rw [first]
  exact hasStatus

theorem encodes : encodeForwardedResponse response.rawHead response.status response.fields
    response.body = .ok response.out := by
  cases bodyless : hasNoBody response.status with
  | true =>
      simp [encodeForwardedResponse, out, sentHead, sentBody, bodyless, response.toUtf8_text]
  | false =>
      rw [encodeForwardedResponse_of_body bodyless]
      refine ⟨_, _, response.fromUtf8_rawHead, response.firstLine_text, ?_⟩
      simp [out, sentHead, sentBody, bodyless, forwardedHead, encodeHead_eq, sentLines]

theorem newlineFree : '\n' ∉ response.statusLine :=
  firstLine_free response.firstLine_text

/-- The head is not without line ends. -/
theorem crlf_isInfix_text : crlf ++ crlf <:+: response.text := by
  have terminated : toUtf8 (crlf ++ crlf) <:+ toUtf8 response.text := by
    rw [response.toUtf8_text]
    exact headerEnd_isSuffix response.scanned
  exact isInfix_of_toUtf8_isInfix (by decide) terminated.isInfix

theorem firstLine_sentHead : firstLine response.sentHead = some response.statusLine := by
  unfold sentHead
  split
  · exact response.firstLine_text
  · exact firstLine_encodeHead _ response.newlineFree

end

theorem readHttpResponse_eq_ok_iff {out : Bytes} :
    (readHttpResponse limits stream).1 = .ok out ↔
      ∃ response : AcceptedResponse limits stream, response.out = out := by
  constructor
  · intro answer
    obtain ⟨rawHead, bodyPrefix, rest, fields, status, mode, body, scanned, parsedFields,
      parsedStatus, hasMode, bodyRead, encoded⟩ := readHttpResponse_ok answer
    let response : AcceptedResponse limits stream :=
      { rawHead, bodyPrefix, rest, fields, status, mode, body, scanned, parsedFields,
        parsedStatus, hasMode, bodyRead }
    exact ⟨response, Except.ok.inj (response.encodes.symm.trans encoded)⟩
  · rintro ⟨response, rfl⟩
    rw [readHttpResponse, Reading.bind_of_ok response.scanned]
    simp only [response.parsedFields, response.parsedStatus, response.hasMode,
      Reading.ofExcept_ok_bind]
    have borrowed : withPrefix response.bodyPrefix
        (readBody response.mode limits.maxResponseBytes) response.rest =
          (.ok response.body, (readBody response.mode limits.maxResponseBytes
            (PrefixReader.new response.bodyPrefix response.rest)).2.inner) := by
      simp [withPrefix, ← response.bodyRead]
    rw [Reading.bind_of_ok borrowed, response.encodes]
    rfl

end

end AcceptedResponse

end Mzani
