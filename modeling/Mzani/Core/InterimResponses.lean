import Mzani.Core.ResponseForwarding

/-!
# Interim responses

A backend may send interim responses before the final one.  The reader takes
the first head on the stream for the whole response, so it is the final one
exactly if no interim response precedes it.
-/

namespace Mzani

open Support

/-- The head of an interim response, within some limit; 101 ends the exchange
instead. -/
structure Interim where
  head : ResponseHead
  admissible : head.encode.length < usizeLimit
  informational : 100 ≤ head.status ∧ head.status ≤ 199
  notSwitching : head.status ≠ 101

theorem Interim.noBody (interim : Interim) : hasNoBody interim.head.status = true := by
  obtain ⟨low, high⟩ := interim.informational
  simp [hasNoBody, low, high]

/-- A final response within some limits: its status has no body, or its head
announces one. -/
inductive FinalResponse where
  | bodyless (head : ResponseHead) (admissible : head.encode.length < usizeLimit)
      (noBody : head.status = 204 ∨ head.status = 304)
  | framed (head : ResponseHead) (body : SentBody)
      (admissible : head.encode.length < usizeLimit ∧ body.payload.length < usizeLimit)
      (isFinal : 200 ≤ head.status) (hasBody : hasNoBody head.status = false)
      (announced : body.AnnouncedBy head.fields)

namespace FinalResponse

def encode : FinalResponse → Bytes
  | .bodyless head _ _ => head.encode
  | .framed head body _ _ _ _ => head.encode ++ body.encode

/-- What the client gets for it. -/
def forwarded : FinalResponse → Bytes
  | .bodyless head _ _ => head.encode
  | .framed head body _ _ _ _ =>
      forwardedHead head.statusLine head.fields body.payload.length ++ body.payload

/-- Head and payload are within the limits. -/
def Within (limits : Limits) : FinalResponse → Prop
  | .bodyless head _ _ => head.encode.length ≤ limits.maxHeaderBytes
  | .framed head body _ _ _ _ =>
      head.encode.length ≤ limits.maxHeaderBytes ∧
        body.payload.length ≤ limits.maxResponseBytes

/-- What may follow it on the stream. -/
def MayPrecede (tail : List Item) : FinalResponse → Prop
  | .bodyless _ _ _ => True
  | .framed _ body _ _ _ _ => body.MayPrecede tail

/-- Alone on the stream, a final response is forwarded. -/
theorem readHttpResponse_alone {σ : Type} [ByteStream σ] {limits : Limits}
    {final : FinalResponse} {tail : List Item} {stream : σ} (within : final.Within limits)
    (precedes : final.MayPrecede tail)
    (content : ByteStream.items stream = final.encode.map .byte ++ tail) :
    (readHttpResponse limits stream).1 = .ok final.forwarded := by
  cases final with
  | bodyless head admissible noBody =>
      have isBodyless : hasNoBody head.status = true := by
        rcases noBody with status | status <;> simp [hasNoBody, status]
      exact readHttpResponse_bodyless isBodyless head.isHead head.parseHeaderFields
        head.parseStatusCode within content
  | framed head body admissible isFinal hasBody announced =>
      exact readHttpResponse_announced hasBody announced within.1 within.2 precedes content

end FinalResponse

/-- Heads one after the other. -/
def encodeInterims (interims : List Interim) : Bytes :=
  interims.flatMap fun interim => interim.head.encode

/-- Under all limits that admit the messages, in every split, the answer to
these interim responses and this final one ends with the final one, and is no
interim head. -/
def ForwardsFinal (interims : List Interim) (final : FinalResponse) : Prop :=
  ∀ (σ : Type) [ByteStream σ] (limits : Limits) (stream : σ) (tail : List Item),
    (∀ interim ∈ interims, interim.head.encode.length ≤ limits.maxHeaderBytes) →
      final.Within limits → final.MayPrecede tail →
        ByteStream.items stream =
            (encodeInterims interims ++ final.encode).map .byte ++ tail →
          (∃ out, (readHttpResponse limits stream).1 = .ok out ∧ final.forwarded <:+ out) ∧
            ∀ interim ∈ interims,
              (readHttpResponse limits stream).1 ≠ .ok interim.head.encode

/-- The first interim head is taken for the whole response. -/
theorem readHttpResponse_interim {σ : Type} [ByteStream σ] {limits : Limits}
    {interim : Interim} {tail : List Item} {stream : σ}
    (fits : interim.head.encode.length ≤ limits.maxHeaderBytes)
    (content : ByteStream.items stream = interim.head.encode.map .byte ++ tail) :
    (readHttpResponse limits stream).1 = .ok interim.head.encode :=
  readHttpResponse_bodyless interim.noBody interim.head.isHead interim.head.parseHeaderFields
    interim.head.parseStatusCode fits content

theorem FinalResponse.within_largest (final : FinalResponse) :
    final.Within Limits.largest := by
  have largest : usizeLimit - 1 + 1 = usizeLimit := by decide
  cases final with
  | bodyless head admissible noBody =>
      change head.encode.length ≤ usizeLimit - 1
      omega
  | framed head body admissible isFinal hasBody announced =>
      obtain ⟨headFits, bodyFits⟩ := admissible
      constructor
      · change head.encode.length ≤ usizeLimit - 1
        omega
      · change body.payload.length ≤ usizeLimit - 1
        omega

/-- The final response is forwarded exactly if it comes first. -/
theorem forwardsFinal_iff (interims : List Interim) (final : FinalResponse) :
    ForwardsFinal interims final ↔ interims = [] := by
  constructor
  · intro forwards
    cases interims with
    | nil => rfl
    | cons first others =>
        let stream : List Item :=
          (encodeInterims (first :: others) ++ final.encode).map .byte ++ []
        have headFits : ∀ interim ∈ first :: others,
            interim.head.encode.length ≤ Limits.largest.maxHeaderBytes := by
          intro interim _
          have small := interim.admissible
          change interim.head.encode.length ≤ usizeLimit - 1
          omega
        have precedes : final.MayPrecede [] := by
          cases final with
          | bodyless head admissible noBody => trivial
          | framed head body admissible isFinal hasBody announced =>
              cases body with
              | fixed bytes => trivial
              | chunked body => trivial
              | untilEof bytes => rfl
        obtain ⟨_, notInterim⟩ := forwards (List Item) Limits.largest stream []
          headFits final.within_largest precedes rfl
        have content : ByteStream.items stream = first.head.encode.map .byte ++
            (encodeInterims others ++ final.encode).map .byte := by
          simp [stream, encodeInterims]
        have answered := readHttpResponse_interim (headFits first List.mem_cons_self) content
        exact (notInterim first List.mem_cons_self answered).elim
  · rintro rfl σ _ limits stream tail _ within precedes content
    constructor
    · exact ⟨final.forwarded, FinalResponse.readHttpResponse_alone within precedes content,
        List.suffix_rfl⟩
    · intro interim member
      cases member

/-- A 100 response, and the 200 response that a backend sends after it. -/
def continueHead : ResponseHead where
  statusLine := "HTTP/1.1 100 Continue".toList
  status := 100
  lines := []
  lineEndFree := by decide
  hasStatus := ⟨"HTTP/1.1".toList, "100".toList, ["Continue".toList], by decide, by decide⟩
  countable := by decide

def continueInterim : Interim :=
  { head := continueHead, admissible := by decide, informational := by decide,
    notSwitching := by decide }

def helloFinal : FinalResponse :=
  .framed chunkedHead (.chunked helloBody) ⟨by decide, by decide⟩ (by decide) (by decide)
    ⟨_, _, rfl, by decide, by decide, by decide⟩

set_option maxRecDepth 4000 in
/-- The client gets the 100 head and nothing else. -/
theorem continue_forwarded_alone :
    (readHttpResponse ({} : Limits)
        ((continueHead.encode ++ helloFinal.encode).map Item.byte)).1 =
      .ok (toUtf8 "HTTP/1.1 100 Continue\r\n\r\n".toList) ∧
      ¬ForwardsFinal [continueInterim] helloFinal := by
  have answer : (readHttpResponse ({} : Limits)
      ((continueHead.encode ++ helloFinal.encode).map Item.byte)).1 =
        .ok (toUtf8 "HTTP/1.1 100 Continue\r\n\r\n".toList) := by
    decide +kernel
  refine ⟨answer, ?_⟩
  intro forwards
  have within : helloFinal.Within {} := ⟨by decide, by decide⟩
  have fits : ∀ interim ∈ [continueInterim],
      interim.head.encode.length ≤ ({} : Limits).maxHeaderBytes := by decide
  obtain ⟨_, notInterim⟩ := forwards (List Item) {}
    ((continueHead.encode ++ helloFinal.encode).map Item.byte) [] fits within trivial rfl
  exact notInterim continueInterim List.mem_cons_self answer

end Mzani
