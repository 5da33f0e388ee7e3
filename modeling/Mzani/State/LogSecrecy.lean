import Mzani.State.TerminalEvents

/-!
# What the log shows of a request

Two requests that agree in what `request_parsed` shows, and in length, leave
the same log: nothing else of a request decides what a call emits.
-/

namespace Mzani

open Support

/-- What the log may show of a request is the same for both. -/
structure AlikeInLog (first second : Request) : Prop where
  method : first.method = second.method
  path : first.path.takeWhile (· ≠ '?') = second.path.takeWhile (· ≠ '?')
  host : headerField first.headers "host".toList = headerField second.headers "host".toList
  userAgent : headerField first.headers "user-agent".toList =
    headerField second.headers "user-agent".toList
  requestId : headerField first.headers "x-request-id".toList =
    headerField second.headers "x-request-id".toList
  bodyLength : first.body.length = second.body.length
  serializedLength : first.toBytes.length = second.toBytes.length

/-- Two clients whose sockets give the same, but for the bytes that they
send. -/
structure SameSocket {σ τ : Type} (first : ClientSocket σ) (second : ClientSocket τ) :
    Prop where
  setReadTimeout : first.setReadTimeout = second.setReadTimeout
  peerAddr : first.peerAddr = second.peerAddr
  breaks : first.breaks = second.breaks
  flush : first.flush = second.flush
  shutdown : first.shutdown = second.shutdown

theorem AlikeInLog.requestParsed {first second : Request} (alike : AlikeInLog first second)
    (req : RequestContext) : requestParsed req first = requestParsed req second := by
  have path : pathForLog first.path = pathForLog second.path := alike.path
  simp only [Mzani.requestParsed, alike.method, path, alike.host, alike.userAgent,
    alike.requestId, alike.bodyLength, alike.serializedLength]

/-! ## Proxying -/

section

variable {σ : Type} [Read σ] {first second : Bytes} (sameLength : first.length = second.length)

include sameLength

/-- The bytes of a request decide only what the backend gets. -/
theorem attempt_result_congr (context : Context) (network : Network σ) (attempt : Nat)
    (target : SocketAddr) :
    (context.attempt network first attempt target).result =
      (context.attempt network second attempt target).result := by
  unfold Context.attempt proxyToBackend
  cases network.connect attempt target with
  | error error => rfl
  | ok connection =>
      dsimp only
      cases connection.setReadTimeout context.timeouts.read with
      | error error => rfl
      | ok value =>
          dsimp only
          rw [Connection.writeAll, Connection.writeAll, sameLength]
          by_cases takesAll : second.length ≤ connection.accepts
          · rw [if_pos takesAll, if_pos takesAll]
          · rw [if_neg takesAll, if_neg takesAll]

theorem retryLoop_result_congr (context : Context) (network : Network σ)
    (attempts left attempt : Nat) (target : SocketAddr) (lastError : Option MzaniError) :
    (context.retryLoop network first attempts left attempt target lastError).1 =
      (context.retryLoop network second attempts left attempt target lastError).1 := by
  induction left generalizing attempt target lastError with
  | zero => rfl
  | succ left induction =>
      have sameResult := attempt_result_congr sameLength context network attempt target
      rw [Context.retryLoop, Context.retryLoop]
      dsimp only
      rw [sameResult]
      cases (context.attempt network second attempt target).result with
      | ok response => rfl
      | error error =>
          by_cases last : attempts ≤ attempt + 1
          · simp only [if_pos last]
          · simp only [if_neg last]
            exact induction (attempt + 1) _ (some error)

theorem proxyWithRetries_result_congr (context : Context) (network : Network σ)
    (firstTarget : SocketAddr) :
    (context.proxyWithRetries network first firstTarget).1 =
      (context.proxyWithRetries network second firstTarget).1 :=
  retryLoop_result_congr sameLength context network _ _ 0 firstTarget none

end

/-! ## A whole call -/

theorem Handled.records_after (effects : List Effect) (handled : Handled) :
    (handled.after effects).records =
      effects.filterMap Effect.record? ++ handled.records := by
  simp [Handled.records, Handled.after]

section

variable {σ₁ σ₂ τ : Type} {first : ClientSocket σ₁} {second : ClientSocket σ₂}

theorem SameSocket.writeAll (sockets : SameSocket first second) (bytes : Bytes) :
    first.writeAll bytes = second.writeAll bytes := by
  rw [ClientSocket.writeAll, ClientSocket.writeAll, sockets.breaks]

theorem SameSocket.respond (sockets : SameSocket first second) (answer : Answer) :
    first.respond answer = second.respond answer := by
  rw [ClientSocket.respond, ClientSocket.respond, sockets.writeAll, sockets.flush]

theorem SameSocket.peerText (sockets : SameSocket first second) :
    first.peerText = second.peerText := by
  rw [ClientSocket.peerText, ClientSocket.peerText, sockets.peerAddr]

namespace WorkerContext

theorem deliver_congr (sockets : SameSocket first second) (context : WorkerContext)
    (clock : Nat → Duration) (req : RequestContext) (target : SocketAddr)
    (requestLen : Nat) (response : Bytes) :
    context.deliver first clock req target requestLen response =
      context.deliver second clock req target requestLen response := by
  rw [deliver, deliver, sockets.writeAll, sockets.flush, sockets.shutdown]

variable [Read τ] {left right : Request} (alike : AlikeInLog left right)

include alike

theorem forward_records_congr (sockets : SameSocket first second) (context : WorkerContext)
    (around : Surroundings τ) (req : RequestContext) (target : SocketAddr) :
    (context.forward first around req target left).records =
      (context.forward second around req target right).records := by
  have sameResult := proxyWithRetries_result_congr alike.serializedLength context.toContext
    around.network target
  rw [forward, forward, Handled.records_after, Handled.records_after, sameResult,
    alike.serializedLength, alike.requestParsed]
  cases (context.toContext.proxyWithRetries around.network right.toBytes target).1 with
  | error error => rfl
  | ok response =>
      dsimp only
      rw [deliver_congr sockets]
      rfl

variable [Read σ₁] [Read σ₂]

/-- The log of a call does not depend on the query string, the body bytes or
any header value but those of Host, User-Agent and X-Request-ID. -/
theorem handleConnection_records_congr (sockets : SameSocket first second)
    (context : WorkerContext) (around : Surroundings τ) (req : RequestContext)
    (parsedLeft : (Request.fromStream context.limits first.stream).1 = .ok left)
    (parsedRight : (Request.fromStream context.limits second.stream).1 = .ok right) :
    (context.handleConnection first around req).records =
      (context.handleConnection second around req).records := by
  rw [handleConnection, handleConnection, sockets.setReadTimeout, sockets.peerText]
  cases second.setReadTimeout context.timeouts.read with
  | error error => rfl
  | ok value =>
      dsimp only
      rw [Handled.records_after, Handled.records_after]
      cases around.selected with
      | error error =>
          cases error <;> simp only [sockets.respond]
      | ok target =>
          dsimp only
          rw [serve, serve, Handled.records_after, Handled.records_after, parsedLeft,
            parsedRight]
          dsimp only
          rw [forward_records_congr alike sockets]

end WorkerContext

end

/-- A payment with a query string, a cookie and a body. -/
def secretPayment (card cookie : Char) (body : Bytes) : Request where
  method := .post
  path := "/pay?card=".toList ++ [card]
  headers := [("Cookie".toList, [cookie]), ("Content-Length".toList, "2".toList)]
  body := body
  rawHead := toUtf8 ("POST /pay?card=".toList ++ card :: " HTTP/1.1\r\nCookie: ".toList ++
    cookie :: "\r\nContent-Length: 2\r\n\r\n".toList)

def firstPayment : Request := secretPayment '1' 'a' (toUtf8 "hi".toList)

def secondPayment : Request := secretPayment '2' 'b' (toUtf8 "no".toList)

set_option maxRecDepth 4000 in
theorem handleConnection_records_congr_payments :
    (frontContext.handleConnection (sender firstPayment.toBytes) failover ⟨1, 0⟩).records =
      (frontContext.handleConnection (sender secondPayment.toBytes) failover ⟨1, 0⟩).records := by
  have alike : AlikeInLog firstPayment secondPayment := by
    constructor
    all_goals decide +kernel
  have sockets : SameSocket (sender firstPayment.toBytes) (sender secondPayment.toBytes) := by
    constructor
    all_goals rfl
  exact WorkerContext.handleConnection_records_congr alike sockets frontContext failover ⟨1, 0⟩
    (by decide +kernel) (by decide +kernel)

end Mzani
