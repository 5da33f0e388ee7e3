import Mzani.Core.TransferCodings
import Mzani.State.Answers

/-!
# Responses to HEAD requests

A response to a HEAD request announces a body that does not follow.  The
response reader is not told the method, so it waits for the body: only a
response that announces none gets to the client.
-/

namespace Mzani

open Support

/-- What a head announces: the body that a GET request would get. -/
inductive Announcement where
  | length (count : Nat)
  | chunked
  | none
  deriving DecidableEq

namespace Announcement

/-- The one framing field, or none, that makes the announcement. -/
def MadeBy (fields : HeaderFields) : Announcement → Prop
  | .length count => ∃ name digits, framingFields fields = [(name, digits)] ∧
      eqIgnoreAsciiCase name "content-length".toList = true ∧
      digits ≠ [] ∧ AllDigits 10 digits ∧ digitsValue 10 0 digits = count
  | .chunked => ∃ name coding, framingFields fields = [(name, coding)] ∧
      eqIgnoreAsciiCase name "transfer-encoding".toList = true ∧
      eqIgnoreAsciiCase coding "chunked".toList = true
  | .none => framingFields fields = []

/-- The fields still say so. -/
def KeptIn (received : HeaderFields) : Announcement → Prop
  | .none => True
  | announcement => announcement.MadeBy received

end Announcement

/-- What a backend does after the head: it closes the connection, or leaves it
open until waiting for more fails. -/
inductive Ending where
  | closes
  | staysOpen (error : IoError) (gaveUp : error.kind ≠ .interrupted)

def Ending.items : Ending → List Item
  | .closes => []
  | .staysOpen error _ => [.fail error]

/-- A response to a HEAD request. -/
structure HeadResponse where
  head : ResponseHead
  announcement : Announcement
  ending : Ending
  mayHaveBody : hasNoBody head.status = false
  announced : announcement.MadeBy head.fields

namespace HeadResponse

/-- It announces an empty body, or none and the backend closes. -/
def AnnouncesNothing (response : HeadResponse) : Prop :=
  response.announcement = .length 0 ∨
    response.announcement = .none ∧ response.ending = .closes

/-! ## Reading the response -/

section

variable {σ : Type} [ByteStream σ] {limits : Limits} {stream : σ} {response : HeadResponse}
  (fits : response.head.encode.length ≤ limits.maxHeaderBytes)
  (content : ByteStream.items stream =
    response.head.encode.map .byte ++ response.ending.items)

include fits content

theorem read_of_announcesNothing (nothing : response.AnnouncesNothing) :
    (readHttpResponse limits stream).1 =
      .ok (forwardedHead response.head.statusLine response.head.fields 0) := by
  have announced := response.announced
  rcases nothing with empty | ⟨unannounced, closes⟩
  · rw [empty] at announced
    have announcedEmpty : (SentBody.fixed []).AnnouncedBy response.head.fields := announced
    have whole : ByteStream.items stream = (response.head.encode ++
        (SentBody.fixed []).encode).map .byte ++ response.ending.items := by
      rw [content, SentBody.encode, List.append_nil]
    have answer := readHttpResponse_announced response.mayHaveBody announcedEmpty fits
      (Nat.zero_le _) trivial whole
    rwa [SentBody.payload, List.append_nil] at answer
  · rw [unannounced] at announced
    have announcedNone : (SentBody.untilEof []).AnnouncedBy response.head.fields := announced
    have whole : ByteStream.items stream = (response.head.encode ++
        (SentBody.untilEof []).encode).map .byte ++ [] := by
      simp [content, closes, SentBody.encode, Ending.items]
    have answer := readHttpResponse_announced response.mayHaveBody announcedNone fits
      (Nat.zero_le _) rfl whole
    rwa [SentBody.payload, List.append_nil] at answer

omit fits content in
theorem cutOff_ending (ending : Ending) : CutOff ending.items := by
  cases ending with
  | closes => trivial
  | staysOpen error gaveUp =>
      intro again
      exact absurd again gaveUp

/-- A mode under which the missing body is missed. -/
theorem read_missing {mode : BodyMode}
    (hasMode : bodyMode response.head.fields response.head.status = .ok mode)
    (missed : ∀ reader : PrefixReader σ, ByteStream.items reader = response.ending.items →
      ∃ error, (readBody mode limits.maxResponseBytes reader).1 = .error error) :
    ∃ error, (readHttpResponse limits stream).1 = .error error := by
  obtain ⟨reader, readerContent, answer⟩ := readHttpResponse_of_head response.head.isHead
    (Nat.le_succ_of_le fits) response.head.parseHeaderFields response.head.parseStatusCode
    hasMode content
  obtain ⟨error, failed⟩ := missed reader readerContent
  refine ⟨error, ?_⟩
  rw [answer, failed]
  rfl

theorem read_length {count : Nat} (announces : response.announcement = .length count)
    (positive : count ≠ 0) :
    ∃ error, (readHttpResponse limits stream).1 = .error error := by
  have announced := response.announced
  rw [announces] at announced
  obtain ⟨name, digits, only, isLength, nonempty, all, value⟩ := announced
  have mode := bodyMode_length response.mayHaveBody
    (not_firstIsChunked_of_framing only isLength)
  rw [headerField_length_of_framing only isLength] at mode
  dsimp only at mode
  cases parsed : parseUnsigned usizeLimit digits with
  | none =>
      rw [parsed] at mode
      exact ⟨_, readHttpResponse_unframed response.head.isHead (Nat.le_succ_of_le fits)
        response.head.parseHeaderFields response.head.parseStatusCode mode content⟩
  | some length =>
      rw [parsed] at mode
      obtain ⟨sameValue, _⟩ :=
        (fromStrRadix_eq_some_iff (by decide) (by decide) nonempty all).mp parsed
      apply read_missing fits content mode
      intro reader readerContent
      have short : ([] : Bytes).length < length := by
        rw [List.length_nil]
        omega
      exact readFixedBody_short short (cutOff_ending response.ending).stops readerContent

theorem read_chunked (announces : response.announcement = .chunked) :
    ∃ error, (readHttpResponse limits stream).1 = .error error := by
  have announced := response.announced
  rw [announces] at announced
  obtain ⟨name, coding, only, isCoding, isChunked⟩ := announced
  have first := firstIsChunked_of_framing only isCoding isChunked
  apply read_missing fits content (bodyMode_chunked response.mayHaveBody first)
  intro reader readerContent
  -- no byte of any chunked body has come
  obtain ⟨error, failed⟩ := readChunkedBody_truncated limits.maxResponseBytes
    (List.nil_prefix (l := helloBody.encode)) helloBody.encode_ne_nil.symm
    (cutOff_ending response.ending)
  exact ⟨error, (readChunkedBody_content readerContent).trans failed⟩

theorem read_staysOpen {error : IoError} {gaveUp : error.kind ≠ .interrupted}
    (announces : response.announcement = .none)
    (staysOpen : response.ending = .staysOpen error gaveUp) :
    ∃ error, (readHttpResponse limits stream).1 = .error error := by
  have announced := response.announced
  rw [announces] at announced
  have other : ¬FirstIsChunked response.head.fields := not_firstIsChunked_of_none
    (headerField_of_unframed announced isFramingName_transferEncoding)
  apply read_missing fits content (bodyMode_untilEof response.mayHaveBody other
    (headerField_of_unframed announced isFramingName_contentLength))
  intro reader readerContent
  rw [staysOpen] at readerContent
  have stops : Stops (ByteStream.items reader) := by
    rw [readerContent]
    simp [Stops, Ending.items]
  refine ⟨MzaniError.ofIo error, ?_⟩
  change (readUntilEofLoop limits.maxResponseBytes [] reader).1 = _
  rw [readUntilEofLoop_pass, untilEofPass]
  rcases read_of_stops (by decide : 0 < 4096) stops with
    ⟨rest, answer⟩ | ⟨found, rest, answer, split⟩
  · have nothing := (items_of_read_nothing (by decide) answer).1
    rw [readerContent] at nothing
    cases nothing
  · rw [readerContent] at split
    obtain rfl : error = found := by simpa [Ending.items] using (List.cons.inj split).1
    rw [answer]
    rfl

theorem read_of_announcesBody (something : ¬response.AnnouncesNothing) :
    ∃ error, (readHttpResponse limits stream).1 = .error error := by
  cases announces : response.announcement with
  | length count =>
      apply read_length fits content announces
      rintro rfl
      exact something (Or.inl announces)
  | chunked => exact read_chunked fits content announces
  | none =>
      cases ending : response.ending with
      | closes => exact (something (Or.inr ⟨announces, ending⟩)).elim
      | staysOpen error gaveUp => exact read_staysOpen fits content announces ending

end

end HeadResponse

/-! ## Forwarding the response -/

section

variable {σ τ : Type} [Read σ] [ByteStream τ]

/-- A HEAD request is accepted, and every backend that is tried takes it and
gives this response. -/
structure HeadExchange (context : WorkerContext) (client : ClientSocket σ)
    (around : Surroundings τ) (target : SocketAddr) (request : Request)
    (response : HeadResponse) : Prop where
  works : client.Works context
  selected : around.selected = .ok target
  parsed : (Request.fromStream context.limits client.stream).1 = .ok request
  isHead : request.method = .head
  admitted : response.head.encode.length ≤ context.limits.maxHeaderBytes
  answered : ∀ attempt < context.allowed, ∃ connection,
    around.network.connect attempt (around.network.target target attempt) = .ok connection ∧
      connection.setReadTimeout context.timeouts.read = .ok () ∧
      request.toBytes.length ≤ connection.accepts ∧
      ByteStream.items connection.response =
        response.head.encode.map .byte ++ response.ending.items

/-- The client gets the status and the fields of the response, and no body. -/
def ForwardsHead (response : HeadResponse) (handled : Handled) : Prop :=
  handled.result = .ok () ∧ ∃ out received,
    handled.answers = [(.forwarded out, out)] ∧ IsHead out ∧
      parseStatusCode out = .ok response.head.status ∧
      parseHeaderFields out = .ok received ∧
      otherFields received = otherFields response.head.fields ∧
      response.announcement.KeptIn received

namespace HeadExchange

variable {context : WorkerContext} {client : ClientSocket σ} {around : Surroundings τ}
  {target : SocketAddr} {request : Request} {response : HeadResponse}
  (exchange : HeadExchange context client around target request response)

include exchange

theorem selects : context.Selects client around target :=
  ⟨exchange.works.timeoutSet, exchange.selected⟩

/-- An attempt gives what reading the response gives. -/
theorem made_result {attempt : Nat} (inside : attempt < context.allowed) :
    ∃ stream : τ, ByteStream.items stream =
        response.head.encode.map .byte ++ response.ending.items ∧
      (context.made around.network request.toBytes target attempt).result =
        (readHttpResponse context.limits stream).1 := by
  obtain ⟨connection, connects, timeoutSet, takesAll, content⟩ :=
    exchange.answered attempt inside
  refine ⟨connection.response, content, ?_⟩
  rw [Context.made, Context.attempt, connects, proxyToBackend, timeoutSet,
    Connection.writeAll, if_pos takesAll]

theorem answered_handleConnection (req : RequestContext) :
    Answered context client around (context.handleConnection client around req) :=
  answered_of_ends exchange.works (Or.inr ⟨target, exchange.selected⟩)
    WorkerContext.handleConnection_ends

end HeadExchange

/-- The head that is forwarded has the status and the fields of the response. -/
theorem forwardsHead_forwarded {response : HeadResponse} {handled : Handled}
    (nothing : response.AnnouncesNothing) (done : handled.result = .ok ())
    (answers : handled.answers =
      [(.forwarded (forwardedHead response.head.statusLine response.head.fields 0),
        forwardedHead response.head.statusLine response.head.fields 0)]) :
    ForwardsHead response handled := by
  have newlineFree := response.head.newlineFree
  have hasStatus := response.head.hasStatus
  have readFields := readField_of_parseHeaderFields response.head.parseHeaderFields
  refine ⟨done, _, _, answers, isHead_forwardedHead newlineFree hasStatus readFields 0,
    parseStatusCode_forwardedHead newlineFree hasStatus response.head.fields 0,
    parseHeaderFields_forwardedHead newlineFree hasStatus readFields 0,
    otherFields_forwarded response.head.fields 0, ?_⟩
  rcases nothing with empty | ⟨unannounced, _⟩
  · rw [empty]
    exact ⟨_, _, framingFields_forwarded response.head.fields 0, by decide, by decide,
      by decide, by decide⟩
  · rw [unannounced]
    trivial

end

/-- Backends that give this response. -/
def answering (response : HeadResponse) : Surroundings (List Item) where
  selected := .ok (.v4 localhost 9000)
  network :=
    { connect := fun _ _ =>
        .ok
          { setReadTimeout := fun _ => .ok ()
            accepts := 1000
            writeError := ⟨.other, "broken pipe"⟩
            response := response.head.encode.map .byte ++ response.ending.items }
      selectBackend := fun _ => .error .noHealthyBackend }
  clock := fun _ => 1000000

def plainHead : Bytes := toUtf8 "HEAD / HTTP/1.1\r\n\r\n".toList

theorem headExchange_answering (response : HeadResponse)
    (admitted : response.head.encode.length ≤ frontContext.limits.maxHeaderBytes) :
    HeadExchange frontContext (sender plainHead) (answering response) (.v4 localhost 9000)
      ⟨.head, "/".toList, [], [], plainHead⟩ response := by
  constructor
  · exact works_sender plainHead frontContext
  · rfl
  · decide +kernel
  · rfl
  · exact admitted
  · intro attempt _
    refine ⟨_, rfl, rfl, ?_, rfl⟩
    change (plainHead ++ []).length ≤ 1000
    decide

def emptyLine : FieldLine :=
  { lengthLine with value := "0".toList, valueTrimmed := by decide, lineEndFree := by decide }

def emptyResponse : HeadResponse where
  head := okHead [emptyLine, serverLine] (by decide)
  announcement := .length 0
  ending := .closes
  mayHaveBody := by decide
  announced := ⟨_, _, rfl, by decide, by decide, by decide, by decide⟩

/-- The response to HEAD where GET would get five bytes. -/
def fiveBytes : HeadResponse where
  head := lengthHead
  announcement := .length 5
  ending := .closes
  mayHaveBody := by decide
  announced := ⟨_, _, rfl, by decide, by decide, by decide, by decide⟩

end Mzani
