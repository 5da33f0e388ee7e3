import Mzani.Core.ResponseForwarding
import Mzani.State.Retries
import Mzani.State.TerminalEvents

/-!
# Answers to clients

What a client whose socket works gets from `handle_connection`: a whole
response, or none where the request cannot be parsed or proxying fails.
-/

namespace Mzani

open Support

/-- A head with a status, and after it the body that its one framing field
announces, or none where the status allows none. -/
def WholeResponse (bytes : Bytes) : Prop :=
  ∃ head body fields status, bytes = head ++ body ∧ IsHead head ∧
    parseHeaderFields head = .ok fields ∧ parseStatusCode head = .ok status ∧
    (hasNoBody status = true ∧ body = [] ∨
      hasNoBody status = false ∧ framingFields fields = [lengthField body.length])

theorem wholeResponse_of_readHttpResponse {σ : Type} [ByteStream σ] {limits : Limits}
    {stream : σ} {out : Bytes} (answer : (readHttpResponse limits stream).1 = .ok out) :
    WholeResponse out := by
  obtain ⟨rawHead, bodyPrefix, rest, fields, status, mode, body, scanned, parsedFields,
    parsedStatus, _, bodyRead, encoded⟩ := readHttpResponse_ok answer
  by_cases noBody : hasNoBody status = true
  · rw [encodeForwardedResponse, if_pos noBody, Except.ok.injEq] at encoded
    subst encoded
    exact ⟨rawHead, [], fields, status, (List.append_nil _).symm,
      (readHeaderBlock_ok scanned).2.1, parsedFields, parsedStatus, .inl ⟨noBody, rfl⟩⟩
  · rw [Bool.not_eq_true] at noBody
    obtain ⟨statusLine, newlineFree, hasStatus, rfl⟩ :=
      encodeForwardedResponse_head noBody parsedStatus encoded
    have readFields := readField_of_parseHeaderFields parsedFields
    exact ⟨_, body, _, status, rfl,
      isHead_forwardedHead newlineFree hasStatus readFields body.length,
      parseHeaderFields_forwardedHead newlineFree hasStatus readFields body.length,
      parseStatusCode_forwardedHead newlineFree hasStatus fields body.length,
      .inr ⟨noBody, framingFields_forwarded fields body.length⟩⟩

/-- An answer that the proxy gives itself. -/
theorem wholeResponse_own {statusLine : Text} {status : Nat} (body : Bytes)
    (newlineFree : '\n' ∉ statusLine) (hasStatus : HasStatus statusLine status)
    (hasBody : hasNoBody status = false) :
    WholeResponse (encodeHead (statusLine ::
      [lengthField body.length, ("Connection".toList, "close".toList)].map formatField) ++
        body) := by
  have connection : ReadField ("Connection".toList, "close".toList) := by
    constructor <;> decide
  have readFields : ∀ field ∈ [lengthField body.length,
      ("Connection".toList, "close".toList)], ReadField field := by
    intro field member
    rcases List.mem_cons.mp member with rfl | last
    · exact readField_lengthField body.length
    · rw [List.mem_singleton.mp last]
      exact connection
  have headLines : ∀ line ∈ statusLine ::
      [lengthField body.length, ("Connection".toList, "close".toList)].map formatField,
      HeadLine line := by
    intro line member
    rcases List.mem_cons.mp member with rfl | inFields
    · exact ⟨hasStatus.ne_nil, fun occurs => newlineFree (occurs.subset (by simp))⟩
    · obtain ⟨field, isField, rfl⟩ := List.mem_map.mp inFields
      exact (readFields field isField).headLine
  refine ⟨_, body, [lengthField body.length, ("Connection".toList, "close".toList)], status,
    rfl, isHead_encodeHead (List.cons_ne_nil _ _) headLines, ?_,
    parseStatusCode_encodeHead _ newlineFree hasStatus, .inr ⟨hasBody, ?_⟩⟩
  · rw [parseHeaderFields_encodeHead headLines, List.forall₂_map_left_iff,
      List.forall₂_same]
    exact fun field member => (readFields field member).isField
  · have other : isFramingName "Connection".toList = false := by decide
    simp only [framingFields, List.filter_cons, isFramingName_lengthField, other]
    rfl

set_option maxRecDepth 4000 in
theorem wholeResponse_payloadTooLarge : WholeResponse payloadTooLarge := by
  have shape : payloadTooLarge = encodeHead ("HTTP/1.1 413 Payload Too Large".toList ::
      [lengthField 17, ("Connection".toList, "close".toList)].map formatField) ++
        toUtf8 "payload too large".toList := by
    decide +kernel
  have hasStatus : HasStatus "HTTP/1.1 413 Payload Too Large".toList 413 :=
    ⟨"HTTP/1.1".toList, "413".toList, _, rfl, by decide⟩
  rw [shape]
  exact wholeResponse_own (toUtf8 "payload too large".toList) (by decide) hasStatus
    (by decide)

set_option maxRecDepth 4000 in
theorem wholeResponse_noBackend :
    WholeResponse (serviceUnavailable "no healthy backends") := by
  have shape : serviceUnavailable "no healthy backends" =
      encodeHead ("HTTP/1.1 503 Service Unavailable".toList ::
        [lengthField 40, ("Connection".toList, "close".toList)].map formatField) ++
          toUtf8 "service unavailable: no healthy backends".toList := by
    decide +kernel
  have hasStatus : HasStatus "HTTP/1.1 503 Service Unavailable".toList 503 :=
    ⟨"HTTP/1.1".toList, "503".toList, _, rfl, by decide⟩
  rw [shape]
  exact wholeResponse_own (toUtf8 "service unavailable: no healthy backends".toList)
    (by decide) hasStatus (by decide)

/-! ## Clients whose socket works -/

/-- All operations on the client's socket succeed. -/
structure ClientSocket.Works {σ : Type} (client : ClientSocket σ) (context : WorkerContext) :
    Prop where
  timeoutSet : client.setReadTimeout context.timeouts.read = .ok ()
  takes : client.breaks = none
  flushes : client.flush = .ok ()
  shuts : client.shutdown = .ok ()

section

variable {σ τ : Type} {context : WorkerContext} {client : ClientSocket σ}

theorem ClientSocket.Works.writeAll (works : client.Works context) (bytes : Bytes) :
    client.writeAll bytes = (.ok (), bytes) := by
  simp [ClientSocket.writeAll, works.takes]

theorem ClientSocket.Works.respond (works : client.Works context) (answer : Answer) :
    client.respond answer = [.write answer answer.bytes, .shutdownWrite] := by
  simp [ClientSocket.respond, works.writeAll, works.flushes]

variable [Read σ] [Read τ]

/-- What a client whose socket works gets. -/
inductive Answered (context : WorkerContext) (client : ClientSocket σ)
    (around : Surroundings τ) : Handled → Prop where
  | unavailable {handled : Handled} :
      around.selected = .error .noHealthyBackend →
      handled.result = .error .noHealthyBackend →
      handled.answers = [(.serviceUnavailable "no healthy backends",
        serviceUnavailable "no healthy backends")] →
      Answered context client around handled
  | tooLarge {handled : Handled} {target : SocketAddr} :
      context.Selects client around target →
      (Request.fromStream context.limits client.stream).1 = .error .bodyTooLarge →
      handled.result = .error .bodyTooLarge →
      handled.answers = [(.payloadTooLarge, payloadTooLarge)] →
      Answered context client around handled
  | malformed {handled : Handled} {target : SocketAddr} {error : MzaniError} :
      context.Selects client around target →
      (Request.fromStream context.limits client.stream).1 = .error error →
      error ≠ .bodyTooLarge → handled.result = .error error → handled.answers = [] →
      Answered context client around handled
  | failed {handled : Handled} {target : SocketAddr} {request : Request}
      {error : MzaniError} {attempts : List Attempt} :
      context.Proxies client around target request (.error error) attempts →
      handled.result = .error error → handled.answers = [] →
      Answered context client around handled
  | served {handled : Handled} {target : SocketAddr} {request : Request}
      {response : Bytes} {attempts : List Attempt} :
      context.Proxies client around target request (.ok response) attempts →
      handled.result = .ok () →
      handled.answers = [(.forwarded response, response)] →
      Answered context client around handled

variable {around : Surroundings τ} {req : RequestContext} {handled : Handled}

theorem answered_of_ends (works : client.Works context)
    (routed : around.selected = .error .noHealthyBackend ∨
      ∃ addr, around.selected = .ok addr)
    (ends : WorkerContext.Ends context client around req handled) :
    Answered context client around handled := by
  cases ends with
  | setTimeout failed =>
      rw [works.timeoutSet] at failed
      cases failed
  | noBackend timeoutSet none =>
      refine .unavailable none rfl ?_
      rw [works.respond]
      rfl
  | routing timeoutSet failed other =>
      rcases routed with noHealthy | ⟨addr, selected⟩
      · rw [failed, Except.error.injEq] at noHealthy
        exact absurd noHealthy other
      · rw [failed] at selected
        cases selected
  | bodyLimit selects tooLarge =>
      refine .tooLarge selects tooLarge rfl ?_
      rw [works.respond]
      rfl
  | parse selects failed other => exact .malformed selects failed other rfl rfl
  | proxy proxies => exact .failed proxies rfl rfl
  | clientWrite proxies broken =>
      rw [works.writeAll] at broken
      cases broken
  | clientFlush proxies written broken =>
      rw [works.flushes] at broken
      cases broken
  | clientShutdown proxies written flushed broken =>
      rw [works.shuts] at broken
      cases broken
  | complete proxies written flushed done =>
      rw [works.writeAll] at written
      cases written
      refine .served proxies rfl ?_
      simp [Handled.answers, WorkerContext.untilProxied, List.filterMap_cons,
        unanswered_afterDelivery, Effect.answer?]

theorem handleConnection_answered {set : BackendSet} (nonempty : set.entries.val ≠ [])
    (routed : set.Returns around.selected) (works : client.Works context) :
    Answered context client around (context.handleConnection client around req) :=
  answered_of_ends works (routed.cases nonempty) WorkerContext.handleConnection_ends

end

/-! ## Who is answered -/

section

variable {σ τ : Type} [Read σ] [ByteStream τ] {context : WorkerContext}
  {client : ClientSocket σ} {around : Surroundings τ} {handled : Handled}

/-- What a client is told: what is written is a whole response, exactly one is
written on success, for want of a backend and for a request that is too large,
and none when the request cannot be parsed or proxying fails otherwise. -/
structure AnsweredOnce (context : WorkerContext) (client : ClientSocket σ)
    (around : Surroundings τ) (handled : Handled) : Prop where
  whole : ∀ entry ∈ handled.answers, entry.2 = entry.1.bytes ∧ WholeResponse entry.2
  once : (handled.result = .ok () ∨ around.selected = .error .noHealthyBackend ∨
      ∃ target, context.Selects client around target ∧
        (Request.fromStream context.limits client.stream).1 = .error .bodyTooLarge) →
    handled.answers.length = 1
  parse : ∀ target error, context.Selects client around target →
    (Request.fromStream context.limits client.stream).1 = .error error →
    error ≠ .bodyTooLarge → handled.answers = []
  proxy : ∀ target request error attempts,
    context.Proxies client around target request (.error error) attempts →
    error ≠ .bodyTooLarge → handled.answers = []

/-- Without an answer where none is promised. -/
theorem AnsweredOnce.silent (answers : handled.answers = [])
    (unpromised : ¬(handled.result = .ok () ∨ around.selected = .error .noHealthyBackend ∨
      ∃ target, context.Selects client around target ∧
        (Request.fromStream context.limits client.stream).1 = .error .bodyTooLarge)) :
    AnsweredOnce context client around handled := by
  constructor
  · rw [answers]
    intro entry member
    cases member
  · exact fun promised => absurd promised unpromised
  · intro _ _ _ _ _
    exact answers
  · intro _ _ _ _ _ _
    exact answers

/-- With one whole answer where one is owed. -/
theorem AnsweredOnce.single {entry : Answer × Bytes} (answers : handled.answers = [entry])
    (whole : entry.2 = entry.1.bytes ∧ WholeResponse entry.2)
    (parse : ∀ target error, context.Selects client around target →
      (Request.fromStream context.limits client.stream).1 = .error error →
      error = .bodyTooLarge)
    (proxy : ∀ target request error attempts,
      ¬context.Proxies client around target request (.error error) attempts) :
    AnsweredOnce context client around handled := by
  constructor
  · rw [answers]
    intro other member
    obtain rfl := List.mem_singleton.mp member
    exact whole
  · intro _
    rw [answers]
    rfl
  · intro target error selects failed other
    exact absurd (parse target error selects failed) other
  · intro target request error attempts proxies
    exact absurd proxies (proxy target request error attempts)

theorem answeredOnce_of_answered (answered : Answered context client around handled) :
    AnsweredOnce context client around handled := by
  cases answered with
  | unavailable none failed answers =>
      apply AnsweredOnce.single answers ⟨rfl, wholeResponse_noBackend⟩
      · intro target error selects
        rw [selects.selected] at none
        cases none
      · intro target request error attempts proxies
        rw [proxies.selects.selected] at none
        cases none
  | tooLarge selects tooLarge failed answers =>
      apply AnsweredOnce.single answers ⟨rfl, wholeResponse_payloadTooLarge⟩
      · intro target error _ same
        rw [tooLarge, Except.error.injEq] at same
        exact same.symm
      · intro target request error attempts proxies
        rw [proxies.parsed] at tooLarge
        cases tooLarge
  | malformed selects unparsed other failed answers =>
      apply AnsweredOnce.silent answers
      rintro (ok | none | ⟨target, _, tooLarge⟩)
      · rw [failed] at ok
        cases ok
      · rw [selects.selected] at none
        cases none
      · rw [unparsed, Except.error.injEq] at tooLarge
        exact absurd tooLarge other
  | failed proxies failed answers =>
      apply AnsweredOnce.silent answers
      rintro (ok | none | ⟨target, _, tooLarge⟩)
      · rw [failed] at ok
        cases ok
      · rw [proxies.selects.selected] at none
        cases none
      · rw [proxies.parsed] at tooLarge
        cases tooLarge
  | served proxies done answers =>
      obtain ⟨attempt, served, _⟩ := proxyWithRetries_ok proxies.proxied
      obtain ⟨connection, _, answer⟩ := attempt_eq_ok served.answer
      apply AnsweredOnce.single answers ⟨rfl, wholeResponse_of_readHttpResponse answer⟩
      · intro target error _ failed
        rw [proxies.parsed] at failed
        cases failed
      · intro target request error attempts others
        cases (proxies.unique others).2.2.1

end

theorem works_sender (bytes : Bytes) (context : WorkerContext) :
    (sender bytes).Works context := by
  constructor <;> rfl

/-- A request line without a path. -/
def garbled : Bytes := toUtf8 "GET\r\n\r\n".toList

section

variable {σ τ : Type} [Read σ] [Read τ]

/-- The backend takes the request, and what it sends exceeds the limits. -/
structure Connection.Oversized (connection : Connection τ) (context : Context)
    (bytes : Bytes) : Prop where
  timeoutSet : connection.setReadTimeout context.timeouts.read = .ok ()
  takesAll : bytes.length ≤ connection.accepts
  exceeds : (readHttpResponse context.limits connection.response).1 = .error .bodyTooLarge

/-- The request is accepted, no attempt gets a response, and what the last one
gets exceeds the limits. -/
def LastOversized (context : WorkerContext) (client : ClientSocket σ)
    (around : Surroundings τ) : Prop :=
  ∃ target request, context.Selects client around target ∧
    (Request.fromStream context.limits client.stream).1 = .ok request ∧
    (∀ attempt < context.allowed,
      context.toContext.Fails around.network request.toBytes target attempt) ∧
    ∃ connection, around.network.connect (context.allowed - 1)
        (around.network.target target (context.allowed - 1)) = .ok connection ∧
      connection.Oversized context.toContext request.toBytes

/-- The client gets 413 exactly when the request is too large or proxying fails
because the response is. -/
def TooLargeExactly (context : WorkerContext) (client : ClientSocket σ)
    (around : Surroundings τ) (handled : Handled) : Prop :=
  (∃ got, (Answer.payloadTooLarge, got) ∈ handled.answers) ↔
    (∃ target, context.Selects client around target ∧
      (Request.fromStream context.limits client.stream).1 = .error .bodyTooLarge) ∨
    ∃ target request attempts,
      context.Proxies client around target request (.error .bodyTooLarge) attempts

theorem ofIo_ne_bodyTooLarge (error : IoError) : MzaniError.ofIo error ≠ .bodyTooLarge := by
  unfold MzaniError.ofIo
  split <;> simp

/-- An attempt fails so only on a response that is too large. -/
theorem attempt_bodyTooLarge_iff {context : Context} {network : Network τ} {bytes : Bytes}
    {attempt : Nat} {target : SocketAddr} :
    (context.attempt network bytes attempt target).result = .error .bodyTooLarge ↔
      ∃ connection, network.connect attempt target = .ok connection ∧
        connection.Oversized context bytes := by
  unfold Context.attempt
  cases connects : network.connect attempt target with
  | error error => simp [proxyToBackend, ofIo_ne_bodyTooLarge]
  | ok connection =>
      have fields : connection.Oversized context bytes ↔
          connection.setReadTimeout context.timeouts.read = .ok () ∧
            bytes.length ≤ connection.accepts ∧
            (readHttpResponse context.limits connection.response).1 =
              .error .bodyTooLarge := by
        constructor
        · intro oversized
          exact ⟨oversized.timeoutSet, oversized.takesAll, oversized.exceeds⟩
        · rintro ⟨timeoutSet, takesAll, exceeds⟩
          exact ⟨timeoutSet, takesAll, exceeds⟩
      simp only [Except.ok.injEq, exists_eq_left', fields, proxyToBackend,
        Connection.writeAll]
      cases connection.setReadTimeout context.timeouts.read with
      | error error => simp [ofIo_ne_bodyTooLarge]
      | ok value =>
          by_cases takesAll : bytes.length ≤ connection.accepts
          · simp [takesAll]
          · simp [takesAll, ofIo_ne_bodyTooLarge]

variable {context : WorkerContext} {client : ClientSocket σ} {around : Surroundings τ}
  {handled : Handled}

theorem lastOversized_iff :
    LastOversized context client around ↔
      ∃ target request attempts,
        context.Proxies client around target request (.error .bodyTooLarge) attempts := by
  constructor
  · rintro ⟨target, request, selects, parsed, all, last⟩
    have failed := attempt_bodyTooLarge_iff.mpr last
    obtain ⟨attempts, proxied⟩ := proxyWithRetries_error_iff.mpr ⟨all, failed⟩
    exact ⟨target, request, attempts, selects, parsed, proxied⟩
  · rintro ⟨target, request, attempts, selects, parsed, proxied⟩
    obtain ⟨all, failed⟩ := proxyWithRetries_error_iff.mp ⟨attempts, proxied⟩
    exact ⟨target, request, selects, parsed, all, attempt_bodyTooLarge_iff.mp failed⟩

/-- The answer is 413 exactly for requests that are too large. -/
theorem payloadTooLarge_answered_iff (answered : Answered context client around handled) :
    (∃ got, (Answer.payloadTooLarge, got) ∈ handled.answers) ↔
      ∃ target, context.Selects client around target ∧
        (Request.fromStream context.limits client.stream).1 = .error .bodyTooLarge := by
  cases answered with
  | unavailable none failed answers =>
      rw [answers]
      constructor
      · simp
      · rintro ⟨target, selects, _⟩
        rw [selects.selected] at none
        cases none
  | tooLarge selects tooLarge failed answers =>
      rw [answers]
      exact iff_of_true ⟨_, List.mem_singleton_self _⟩ ⟨_, selects, tooLarge⟩
  | malformed selects unparsed other failed answers =>
      rw [answers]
      constructor
      · simp
      · rintro ⟨target, _, tooLarge⟩
        rw [unparsed, Except.error.injEq] at tooLarge
        exact absurd tooLarge other
  | failed proxies failed answers =>
      rw [answers]
      constructor
      · simp
      · rintro ⟨target, _, tooLarge⟩
        rw [proxies.parsed] at tooLarge
        cases tooLarge
  | served proxies done answers =>
      rw [answers]
      constructor
      · simp
      · rintro ⟨target, _, tooLarge⟩
        rw [proxies.parsed] at tooLarge
        cases tooLarge

/-- 413 on both sides holds exactly as long as the last attempt that is allowed
does not fail on a response that is too large. -/
theorem handleConnection_tooLarge_iff (set : BackendSet) (nonempty : set.entries.val ≠ [])
    (context : WorkerContext) (client : ClientSocket σ) (around : Surroundings τ)
    (req : RequestContext) (routed : set.Returns around.selected)
    (works : client.Works context) :
    TooLargeExactly context client around (context.handleConnection client around req) ↔
      ¬LastOversized context client around := by
  have answered : Answered context client around
      (context.handleConnection client around req) :=
    handleConnection_answered nonempty routed works
  unfold TooLargeExactly
  rw [payloadTooLarge_answered_iff answered, ← lastOversized_iff]
  constructor
  · intro exactly oversized
    obtain ⟨target, selects, tooLarge⟩ := exactly.mpr (.inr oversized)
    obtain ⟨other, request, _, parsed, _⟩ := oversized
    rw [parsed] at tooLarge
    cases tooLarge
  · intro fits
    simp [fits]

end

/-- Little room for bodies, and no retries. -/
def tightContext : WorkerContext where
  limits := { maxBodyBytes := 1, maxResponseBytes := 4 }
  timeouts := {}
  maxBackendRetries := 0
  socketAddr := .v4 localhost 8080

set_option maxRecDepth 4000 in
/-- The client gets 413 for its own body. -/
theorem handleConnection_tooLarge_payment :
    (tightContext.handleConnection (sender payment) failover ⟨1, 0⟩).answers =
        [(.payloadTooLarge, payloadTooLarge)] ∧
      TooLargeExactly tightContext (sender payment) failover
        (tightContext.handleConnection (sender payment) failover ⟨1, 0⟩) := by
  refine ⟨by decide +kernel, ?_⟩
  apply (handleConnection_tooLarge_iff (BackendSet.new BackendSet.pair.backends) (by decide)
    tightContext (sender payment) failover ⟨1, 0⟩ (BackendSet.returns_selectNext _)
    (works_sender payment tightContext)).mpr
  rintro ⟨target, request, _, parsed, _⟩
  have refused : (Request.fromStream tightContext.limits (sender payment).stream).1 =
      .error .bodyTooLarge := by
    decide +kernel
  rw [refused] at parsed
  cases parsed

def plainGet : Bytes := toUtf8 "GET / HTTP/1.1\r\n\r\n".toList

/-- A backend whose response has five bytes of body. -/
def talkative : Surroundings (List Item) where
  selected := (BackendSet.new BackendSet.pair.backends).selectNext.1
  network :=
    { connect := fun _ _ =>
        .ok
          { setReadTimeout := fun _ => .ok ()
            accepts := 1000
            writeError := ⟨.other, "broken pipe"⟩
            response :=
              (toUtf8 "HTTP/1.1 200 OK\r\nContent-Length: 5\r\n\r\nhello".toList).map .byte }
      selectBackend := fun _ => .error .noHealthyBackend }
  clock := fun _ => 1000000

set_option maxRecDepth 4000 in
/-- The response is too large, and the client gets nothing. -/
theorem talkative_unanswered :
    (sender plainGet).Works tightContext ∧
      (BackendSet.new BackendSet.pair.backends).Returns talkative.selected ∧
      (tightContext.handleConnection (sender plainGet) talkative ⟨1, 0⟩).answers = [] ∧
      ¬TooLargeExactly tightContext (sender plainGet) talkative
        (tightContext.handleConnection (sender plainGet) talkative ⟨1, 0⟩) := by
  have unanswered :
      (tightContext.handleConnection (sender plainGet) talkative ⟨1, 0⟩).answers = [] := by
    decide +kernel
  refine ⟨works_sender plainGet tightContext, BackendSet.returns_selectNext _, unanswered, ?_⟩
  intro exactly
  have proxied : (tightContext.toContext.proxyWithRetries talkative.network plainGet
      (.v4 localhost 9000)).1 = .error .bodyTooLarge := by
    decide +kernel
  have parsed : (Request.fromStream tightContext.limits (sender plainGet).stream).1 =
      .ok ⟨.get, "/".toList, [], [], plainGet⟩ := by
    decide +kernel
  have selects : tightContext.Selects (sender plainGet) talkative (.v4 localhost 9000) :=
    ⟨rfl, by decide +kernel⟩
  obtain ⟨got, member⟩ := exactly.mpr (.inr ⟨.v4 localhost 9000, _, _, selects, parsed,
    Prod.ext (by simpa [Request.toBytes] using proxied) rfl⟩)
  rw [unanswered] at member
  cases member

end Mzani
