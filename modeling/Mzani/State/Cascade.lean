import Mzani.Core.ForwardedMessages
import Mzani.State.Answers
import Mzani.State.ServedBackend

/-!
# Balancers in a row

Balancers each of which is the backend of the one before it.  If the last one
succeeds, so do all others; the first client gets what the last balancer sends,
and the backends of the last balancer get what the first client sent.
-/

namespace Mzani

open Support

/-- What the client gets. -/
def Handled.got (handled : Handled) : Bytes :=
  handled.answers.flatMap (·.2)

section

variable {σ τ : Type} [Read σ] [Read τ] {context : WorkerContext} {client : ClientSocket σ}
  {around : Surroundings τ} {req : RequestContext}

/-- A call that succeeds has forwarded a response. -/
theorem forwarded_of_ok (succeeded : (context.handleConnection client around req).result = .ok ()) :
    ∃ target request response attempts,
      context.Proxies client around target request (.ok response) attempts ∧
        (context.handleConnection client around req).proxied = [attempts] ∧
        (context.handleConnection client around req).answers =
          [(.forwarded response, response)] := by
  have ends := @WorkerContext.handleConnection_ends _ _ _ _ context client around req
  generalize context.handleConnection client around req = handled at ends succeeded
  cases ends with
  | @complete target request response got attempts proxies written flushed done =>
      obtain rfl := got_of_writeAll written
      refine ⟨target, request, got, attempts, proxies, ?_, ?_⟩
      · simp [Handled.proxied, WorkerContext.untilProxied, List.filterMap_cons,
          unproxied_afterDelivery, Effect.attempts?]
      · simp [Handled.answers, WorkerContext.untilProxied, List.filterMap_cons,
          unanswered_afterDelivery, Effect.answer?]
  | _ => cases succeeded

/-- A client whose socket works gets the response of the attempt that is answered. -/
theorem forwarded_of_served {target : SocketAddr} {request : Request} {attempt : Nat}
    {response : Bytes} (works : client.Works context) (selected : around.selected = .ok target)
    (parsed : (Request.fromStream context.limits client.stream).1 = .ok request)
    (served : context.ServedBy around.network request.toBytes target attempt response) :
    (context.handleConnection client around req).result = .ok () ∧
      (context.handleConnection client around req).answers =
        [(.forwarded response, response)] := by
  obtain ⟨attempts, proxies⟩ := proxies_of_served ⟨works.timeoutSet, selected⟩ parsed served
  have answered := @answered_of_ends _ _ context client _ _ around req _ works
    (.inr ⟨target, selected⟩) WorkerContext.handleConnection_ends
  cases answered with
  | unavailable none =>
      rw [selected] at none
      cases none
  | tooLarge _ failed =>
      rw [parsed] at failed
      cases failed
  | malformed _ failed =>
      rw [parsed] at failed
      cases failed
  | failed others => cases (proxies.unique others).2.2.1
  | served others done answers =>
      cases (proxies.unique others).2.2.1
      exact ⟨done, answers⟩

/-- A backend gets the request or the beginning of it. -/
theorem written_isPrefix (retries : Context) (network : Network τ) (bytes : Bytes) (attempt : Nat)
    (target : SocketAddr) : (retries.attempt network bytes attempt target).written <+: bytes := by
  unfold Context.attempt proxyToBackend
  split
  · exact List.nil_prefix
  · split
    · exact List.nil_prefix
    · unfold Connection.writeAll
      split
      · rename_i written
        split at written
        · cases written
        · cases written
          exact List.take_prefix _ _
      · rename_i written
        split at written
        · cases written
          exact List.prefix_refl _
        · cases written

end

/-! ## The row -/

/-- The response came out of `read_http_response`. -/
def Forwardable (response : Bytes) : Prop :=
  ∃ (σ : Type) (_ : ByteStream σ) (limits : Limits) (stream : σ),
    (readHttpResponse limits stream).1 = .ok response

/-- The first attempt that does not fail reaches a backend that sends these bytes
first. -/
def Context.Reaches {τ : Type} [ByteStream τ] (context : Context) (network : Network τ)
    (firstTarget : SocketAddr) (request : Request) (sent : Bytes) : Prop :=
  ∃ attempt connection after, attempt < context.allowed ∧
    (∀ earlier < attempt, context.Fails network request.toBytes firstTarget earlier) ∧
    network.connect attempt (network.target firstTarget attempt) = .ok connection ∧
    connection.setReadTimeout context.timeouts.read = .ok () ∧
    request.toBytes.length ≤ connection.accepts ∧
    ByteStream.items connection.response = sent.map .byte ++ after

/-- The balancers of a row, from the first one on, what its client sends and the
request in it, the call of the first one, and the request and the attempts of the last
one, which succeeds. -/
inductive Cascade : List WorkerContext → List Item → Request → Handled → Request →
    List Attempt → Prop where
  | last {σ τ : Type} [ByteStream σ] [ByteStream τ] {context : WorkerContext}
      {client : ClientSocket σ} {around : Surroundings τ} {req : RequestContext}
      {request : Request} {attempts : List Attempt} :
      (Request.fromStream context.limits client.stream).1 = .ok request →
      (context.handleConnection client around req).result = .ok () →
      (context.handleConnection client around req).proxied = [attempts] →
      Cascade [context] (ByteStream.items client.stream) request
        (context.handleConnection client around req) request attempts
  | front {σ τ : Type} [ByteStream σ] [ByteStream τ] {context : WorkerContext}
      {client : ClientSocket σ} {around : Surroundings τ} {req : RequestContext}
      {request again final : Request} {attempts : List Attempt} {target : SocketAddr}
      {behind : List WorkerContext} {tail : List Item} {handled : Handled} :
      client.Works context → around.selected = .ok target →
      (Request.fromStream context.limits client.stream).1 = .ok request →
      context.Reaches around.network target request handled.got →
      ResponseFits context.limits handled.got → Stops tail →
      Cascade behind (request.toBytes.map .byte ++ tail) again handled final attempts →
      Cascade (context :: behind) (ByteStream.items client.stream) request
        (context.handleConnection client around req) final attempts

variable {contexts : List WorkerContext} {content : List Item} {request final : Request}
  {handled : Handled} {attempts : List Attempt}

/-- The first balancer of a row reads the request. -/
theorem Cascade.reads (cascade : Cascade contexts content request handled final attempts) :
    ∃ (σ : Type) (_ : ByteStream σ) (limits : Limits) (stream : σ),
      ByteStream.items stream = content ∧ (Request.fromStream limits stream).1 = .ok request := by
  cases cascade with
  | last parsed => exact ⟨_, _, _, _, rfl, parsed⟩
  | front _ _ parsed => exact ⟨_, _, _, _, rfl, parsed⟩

/-- What a row gives to its client, and what it gives to the backends behind it. -/
structure Transparent (request : Request) (handled : Handled) (final : Request)
    (attempts : List Attempt) (response : Bytes) : Prop where
  result : handled.result = .ok ()
  answers : handled.answers = [(.forwarded response, response)]
  shortens : request.Shortens final
  written : ∀ made ∈ attempts, made.written <+: final.toBytes

theorem Transparent.got {response : Bytes}
    (transparent : Transparent request handled final attempts response) :
    handled.got = response := by
  simp [Handled.got, transparent.answers]

/-- A balancer in front gives its client what the balancers behind it give to it. -/
theorem Transparent.front {σ τ : Type} [ByteStream σ] [ByteStream τ] {context : WorkerContext}
    {client : ClientSocket σ} {around : Surroundings τ} {req : RequestContext}
    {again : Request} {target : SocketAddr} {response : Bytes} (works : client.Works context)
    (selected : around.selected = .ok target)
    (parsed : (Request.fromStream context.limits client.stream).1 = .ok request)
    (reaches : context.Reaches around.network target request handled.got)
    (fits : ResponseFits context.limits handled.got) (forwardable : Forwardable response)
    (shortens : request.Shortens again)
    (transparent : Transparent again handled final attempts response) :
    Transparent request (context.handleConnection client around req) final attempts response := by
  obtain ⟨attempt, connection, after, inside, before, connects, timeoutSet, takes, content⟩ :=
    reaches
  obtain ⟨_, _, limits, stream, answer⟩ := forwardable
  rw [transparent.got] at fits content
  have served : context.ServedBy around.network request.toBytes target attempt response := by
    refine ⟨inside, before, ?_⟩
    rw [Context.made, Context.attempt, connects, proxyToBackend]
    simp only [timeoutSet, Connection.writeAll, if_pos takes]
    exact readHttpResponse_back answer fits content
  obtain ⟨done, forwarded⟩ := @forwarded_of_served _ _ _ _ context client around req _ _ _ _
    works selected parsed served
  exact ⟨done, forwarded, shortens.trans transparent.shortens, transparent.written⟩

/-- The request of `payment`. -/
def paymentRequest : Request where
  method := .post
  path := "/pay".toList
  headers := [("Content-Length".toList, "2".toList)]
  body := toUtf8 "hi".toList
  rawHead := toUtf8 "POST /pay HTTP/1.1\r\nContent-Length: 2\r\n\r\n".toList

/-- A call of the balancer in front of two backends, of which the first one is down. -/
def innerCall : Handled :=
  frontContext.handleConnection (sender payment) recovering ⟨1, 0⟩

/-- The backend of the balancer in front is that balancer. -/
def toInner : Surroundings (List Item) where
  selected := .ok (.v4 localhost 8080)
  network :=
    { connect := fun _ _ =>
        .ok
          { setReadTimeout := fun _ => .ok ()
            accepts := 1000
            writeError := ⟨.other, "broken pipe"⟩
            response := innerCall.got.map .byte }
      selectBackend := fun _ => .error .noHealthyBackend }
  clock := fun _ => 1000000

end Mzani
