import Mzani.State.Context
import Mzani.State.Metrics

/-!
# Handling a connection

`handle_connection` against any client, any routing, any backends and any
clock, with everything that it does to the outside in order.  Each way out of
the function is a constructor of `Ends`.
-/

namespace Mzani

open Support

/-- The part of `Context` that `handle_connection` reads. -/
structure WorkerContext extends Context where
  socketAddr : SocketAddr
  deriving DecidableEq

/-- The socket of a client: what the operations on it give.  If it breaks, it
does so after a number of bytes. -/
structure ClientSocket (σ : Type) where
  setReadTimeout : Duration → Except IoError Unit
  peerAddr : Except IoError SocketAddr
  stream : σ
  breaks : Option (Nat × IoError)
  flush : Except IoError Unit
  shutdown : Except IoError Unit

/-- What `write_payload_too_large` writes. -/
def payloadTooLarge : Bytes :=
  let body := "payload too large"
  toUtf8 ("HTTP/1.1 413 Payload Too Large\r\nContent-Length: " ++
    toString body.utf8ByteSize ++ "\r\nConnection: close\r\n\r\n" ++ body).toList

/-- The responses that a client can get. -/
inductive Answer where
  | serviceUnavailable (message : String)
  | payloadTooLarge
  | forwarded (response : Bytes)
  deriving DecidableEq

def Answer.bytes : Answer → Bytes
  | .serviceUnavailable message => Mzani.serviceUnavailable message
  | .payloadTooLarge => Mzani.payloadTooLarge
  | .forwarded response => response

/-- What `handle_connection` does to the outside: a record for `emit_log`,
statistics for `record_metrics`, a `write_all` of an answer with the bytes that
the client has got from it, a `shutdown` of the write half, and a call of
`proxy_with_retries`. -/
inductive Effect where
  | emitLog (record : LogRecord)
  | recordMetrics (stats : RequestStats)
  | write (answer : Answer) (got : Bytes)
  | shutdownWrite
  | proxy (attempts : List Attempt)
  deriving DecidableEq

structure Handled where
  effects : List Effect
  result : MzaniResult Unit
  deriving DecidableEq

/-- What happens after the effects. -/
def Handled.after (effects : List Effect) (handled : Handled) : Handled :=
  { handled with effects := effects ++ handled.effects }

namespace ClientSocket

variable {σ : Type}

/-- `write_all`, with the bytes that the client has got from it. -/
def writeAll (client : ClientSocket σ) (bytes : Bytes) : Except IoError Unit × Bytes :=
  match client.breaks with
  | none => (.ok (), bytes)
  | some (accepts, error) =>
      if bytes.length ≤ accepts then (.ok (), bytes)
      else (.error error, bytes.take accepts)

/-- `write_service_unavailable` and `write_payload_too_large`, whose results the
caller ignores. -/
def respond (client : ClientSocket σ) (answer : Answer) : List Effect :=
  match client.writeAll answer.bytes with
  | (.error _, got) => [.write answer got]
  | (.ok (), got) =>
      match client.flush with
      | .error _ => [.write answer got]
      | .ok () => [.write answer got, .shutdownWrite]

/-- The name of the client in the log. -/
def peerText (client : ClientSocket σ) : Text :=
  match client.peerAddr with
  | .ok addr => formatAddr addr
  | .error _ => "-".toList

end ClientSocket

/-! ## Records -/

section

variable (req : RequestContext)

def connectionAccepted (client : Text) (listen : SocketAddr) : LogRecord :=
  (LogRecord.new .debug "connection_accepted" .worker).withRequest req
    |>.field "client" client
    |>.field "listen" (formatAddr listen)

def backendSelected (target : SocketAddr) : LogRecord :=
  (LogRecord.new .debug "backend_selected" .worker).withRequest req
    |>.field "backend" (formatAddr target)

def requestParsed (request : Request) : LogRecord :=
  (LogRecord.new .info "request_parsed" .worker).withRequest req
    |>.field "method" request.method.asStr
    |>.field "path" (pathForLog request.path)
    |>.field "host" ((headerField request.headers "host".toList).getD "-".toList)
    |>.field "content_length" (decimal request.body.length)
    |>.field "req_bytes" (decimal request.toBytes.length)
    |>.fieldIf "user_agent" (headerField request.headers "user-agent".toList)
    |>.fieldIf "x_request_id" (headerField request.headers "x-request-id".toList)

def backendConnect (target : SocketAddr) : LogRecord :=
  (LogRecord.new .debug "backend_connect" .worker).withRequest req
    |>.field "backend" (formatAddr target)

/-- `log_request_failed` -/
def requestFailed (elapsed : Duration) (stage : String) (error : Text) : LogRecord :=
  (LogRecord.new .error "request_failed" .worker).withRequest req
    |>.field "stage" stage.toList
    |>.field "error" error
    |>.field "duration_ms" (millis elapsed)

def requestComplete (target : SocketAddr) (requestLen responseLen : Nat)
    (duration : Duration) (statusCode : Option Nat) : LogRecord :=
  (LogRecord.new .info "request_complete" .worker).withRequest req
    |>.field "backend" (formatAddr target)
    |>.field "req_bytes" (decimal requestLen)
    |>.field "resp_bytes" (decimal responseLen)
    |>.field "duration_ms" (millis duration)
    |>.field "outcome" "ok".toList
    |>.fieldIf "status" (statusCode.map decimal)

def slowRequest (duration threshold : Duration) : LogRecord :=
  (LogRecord.new .warn "slow_request" .worker).withRequest req
    |>.field "duration_ms" (millis duration)
    |>.field "threshold_ms" (millis threshold)

/-- The statistics of a request whose proxying failed. -/
def failedStats (target : SocketAddr) (requestLen : Nat) (duration : Duration) :
    RequestStats where
  reqId := req.reqId
  workerId := req.workerId
  backend := target
  requestLen := requestLen
  responseLen := 0
  duration := duration
  outcome := .error
  statusCode := none

/-- The statistics of a request whose response reached the client. -/
def completeStats (target : SocketAddr) (requestLen : Nat) (response : Bytes)
    (duration : Duration) : RequestStats where
  reqId := req.reqId
  workerId := req.workerId
  backend := target
  requestLen := requestLen
  responseLen := response.length
  duration := duration
  outcome := .ok
  statusCode := parseStatusForLog response

/-- A failure that is logged with the text of the error. -/
def failWith (elapsed : Duration) (stage : String) (error : MzaniError) : Handled where
  effects := [.emitLog (requestFailed req elapsed stage error.display)]
  result := .error error

end

/-! ## The function -/

/-- The routing and the clock of one call: what `select_backend` gives first,
and what the readings of the elapsed time give in turn. -/
structure Surroundings (τ : Type) where
  selected : MzaniResult SocketAddr
  network : Network τ
  clock : Nat → Duration

namespace WorkerContext

variable {σ τ : Type}

/-- After the response is on its way. -/
def complete (context : WorkerContext) (clock : Nat → Duration) (req : RequestContext)
    (target : SocketAddr) (requestLen : Nat) (response : Bytes) : Handled :=
  let duration := clock 0
  let slow : List Effect :=
    if context.timeouts.slowRequestWarn ≤ duration then
      [.emitLog (slowRequest req duration context.timeouts.slowRequestWarn)]
    else []
  { effects :=
      [.recordMetrics (completeStats req target requestLen response duration),
        .emitLog (requestComplete req target requestLen response.length duration
          (parseStatusForLog response))] ++ slow
    result := .ok () }

/-- From the response of a backend on. -/
def deliver (context : WorkerContext) (client : ClientSocket σ) (clock : Nat → Duration)
    (req : RequestContext) (target : SocketAddr) (requestLen : Nat) (response : Bytes) :
    Handled :=
  let answer := Answer.forwarded response
  match client.writeAll response with
  | (.error error, got) =>
      (failWith req (clock 0) "client_write" (.ofIo error)).after [.write answer got]
  | (.ok (), got) =>
      match client.flush with
      | .error error =>
          (failWith req (clock 0) "client_flush" (.ofIo error)).after [.write answer got]
      | .ok () =>
          match client.shutdown with
          | .error error =>
              (failWith req (clock 0) "client_shutdown" (.ofIo error)).after
                [.write answer got, .shutdownWrite]
          | .ok () =>
              (context.complete clock req target requestLen response).after
                [.write answer got, .shutdownWrite]

section

variable [Read σ] [Read τ]

/-- From a parsed request on. -/
def forward (context : WorkerContext) (client : ClientSocket σ)
    (around : Surroundings τ) (req : RequestContext) (target : SocketAddr)
    (request : Request) : Handled :=
  let requestBytes := request.toBytes
  let requestLen := requestBytes.length
  let (result, attempts) :=
    context.toContext.proxyWithRetries around.network requestBytes target
  Handled.after
    [.emitLog (requestParsed req request), .emitLog (backendConnect req target),
      .proxy attempts] <|
    match result with
    | .error error =>
        { effects :=
            [.emitLog (requestFailed req (around.clock 0) "proxy" error.display),
              .recordMetrics (failedStats req target requestLen (around.clock 1))]
          result := .error error }
    | .ok response => context.deliver client around.clock req target requestLen response

/-- From a selected backend on. -/
def serve (context : WorkerContext) (client : ClientSocket σ) (around : Surroundings τ)
    (req : RequestContext) (target : SocketAddr) : Handled :=
  Handled.after [.emitLog (backendSelected req target)] <|
    match (Request.fromStream context.limits client.stream).1 with
    | .ok request => context.forward client around req target request
    | .error .bodyTooLarge =>
        { effects := client.respond .payloadTooLarge ++
            [.emitLog (requestFailed req (around.clock 0) "body_limit"
              "body too large".toList)]
          result := .error .bodyTooLarge }
    | .error error => failWith req (around.clock 0) "parse" error

def handleConnection (context : WorkerContext) (client : ClientSocket σ)
    (around : Surroundings τ) (req : RequestContext) : Handled :=
  match client.setReadTimeout context.timeouts.read with
  | .error error => failWith req (around.clock 0) "set_timeout" (.ofIo error)
  | .ok () =>
      Handled.after [.emitLog (connectionAccepted req client.peerText context.socketAddr)] <|
        match around.selected with
        | .ok target => context.serve client around req target
        | .error .noHealthyBackend =>
            { effects := client.respond (.serviceUnavailable "no healthy backends") ++
                [.emitLog (requestFailed req (around.clock 0) "no_backend"
                  "no healthy backends".toList)]
              result := .error .noHealthyBackend }
        | .error error => { effects := [], result := .error error }

end

/-! ## Ways out -/

section

variable [Read σ] [Read τ] (context : WorkerContext) (client : ClientSocket σ)
  (around : Surroundings τ) (req : RequestContext)

/-- A backend is selected. -/
structure Selects (target : SocketAddr) : Prop where
  timeoutSet : client.setReadTimeout context.timeouts.read = .ok ()
  selected : around.selected = .ok target

/-- The request is proxied, with this outcome. -/
structure Proxies (target : SocketAddr) (request : Request) (result : MzaniResult Bytes)
    (attempts : List Attempt) : Prop where
  selects : Selects context client around target
  parsed : (Request.fromStream context.limits client.stream).1 = .ok request
  proxied : context.toContext.proxyWithRetries around.network request.toBytes target =
    (result, attempts)

/-- Effects up to the selection of a backend. -/
def untilAccepted : List Effect :=
  [.emitLog (connectionAccepted req client.peerText context.socketAddr)]

/-- Effects up to the parsing of the request. -/
def untilSelected (target : SocketAddr) : List Effect :=
  [.emitLog (connectionAccepted req client.peerText context.socketAddr),
    .emitLog (backendSelected req target)]

/-- Effects up to the outcome of proxying. -/
def untilProxied (target : SocketAddr) (request : Request) (attempts : List Attempt) :
    List Effect :=
  [.emitLog (connectionAccepted req client.peerText context.socketAddr),
    .emitLog (backendSelected req target), .emitLog (requestParsed req request),
    .emitLog (backendConnect req target), .proxy attempts]

/-- The failure that is logged last. -/
def failure (elapsed : Duration) (stage : String) (error : Text) : List Effect :=
  [.emitLog (requestFailed req elapsed stage error)]

/-- Effects after the response has reached the client. -/
def afterDelivery (target : SocketAddr) (request : Request) (response : Bytes) :
    List Effect :=
  (context.complete around.clock req target request.toBytes.length response).effects

/-- The ways out of `handle_connection`. -/
inductive Ends : Handled → Prop where
  | setTimeout {error : IoError} :
      client.setReadTimeout context.timeouts.read = .error error →
      Ends
        { effects := failure req (around.clock 0) "set_timeout" (MzaniError.ofIo error).display
          result := .error (.ofIo error) }
  | noBackend :
      client.setReadTimeout context.timeouts.read = .ok () →
      around.selected = .error .noHealthyBackend →
      Ends
        { effects := untilAccepted context client req ++
            (client.respond (.serviceUnavailable "no healthy backends") ++
              failure req (around.clock 0) "no_backend" "no healthy backends".toList)
          result := .error .noHealthyBackend }
  | routing {error : MzaniError} :
      client.setReadTimeout context.timeouts.read = .ok () →
      around.selected = .error error → error ≠ .noHealthyBackend →
      Ends { effects := untilAccepted context client req, result := .error error }
  | bodyLimit {target : SocketAddr} :
      Selects context client around target →
      (Request.fromStream context.limits client.stream).1 = .error .bodyTooLarge →
      Ends
        { effects := untilSelected context client req target ++
            (client.respond .payloadTooLarge ++
              failure req (around.clock 0) "body_limit" "body too large".toList)
          result := .error .bodyTooLarge }
  | parse {target : SocketAddr} {error : MzaniError} :
      Selects context client around target →
      (Request.fromStream context.limits client.stream).1 = .error error →
      error ≠ .bodyTooLarge →
      Ends
        { effects := untilSelected context client req target ++
            failure req (around.clock 0) "parse" error.display
          result := .error error }
  | proxy {target : SocketAddr} {request : Request} {error : MzaniError}
      {attempts : List Attempt} :
      Proxies context client around target request (.error error) attempts →
      Ends
        { effects := untilProxied context client req target request attempts ++
            (failure req (around.clock 0) "proxy" error.display ++
              [.recordMetrics
                (failedStats req target request.toBytes.length (around.clock 1))])
          result := .error error }
  | clientWrite {target : SocketAddr} {request : Request} {response got : Bytes}
      {attempts : List Attempt} {error : IoError} :
      Proxies context client around target request (.ok response) attempts →
      client.writeAll response = (.error error, got) →
      Ends
        { effects := untilProxied context client req target request attempts ++
            (.write (.forwarded response) got ::
              failure req (around.clock 0) "client_write" (MzaniError.ofIo error).display)
          result := .error (.ofIo error) }
  | clientFlush {target : SocketAddr} {request : Request} {response got : Bytes}
      {attempts : List Attempt} {error : IoError} :
      Proxies context client around target request (.ok response) attempts →
      client.writeAll response = (.ok (), got) → client.flush = .error error →
      Ends
        { effects := untilProxied context client req target request attempts ++
            (.write (.forwarded response) got ::
              failure req (around.clock 0) "client_flush" (MzaniError.ofIo error).display)
          result := .error (.ofIo error) }
  | clientShutdown {target : SocketAddr} {request : Request} {response got : Bytes}
      {attempts : List Attempt} {error : IoError} :
      Proxies context client around target request (.ok response) attempts →
      client.writeAll response = (.ok (), got) → client.flush = .ok () →
      client.shutdown = .error error →
      Ends
        { effects := untilProxied context client req target request attempts ++
            (.write (.forwarded response) got :: .shutdownWrite ::
              failure req (around.clock 0) "client_shutdown" (MzaniError.ofIo error).display)
          result := .error (.ofIo error) }
  | complete {target : SocketAddr} {request : Request} {response got : Bytes}
      {attempts : List Attempt} :
      Proxies context client around target request (.ok response) attempts →
      client.writeAll response = (.ok (), got) → client.flush = .ok () →
      client.shutdown = .ok () →
      Ends
        { effects := untilProxied context client req target request attempts ++
            (.write (.forwarded response) got :: .shutdownWrite ::
              afterDelivery context around req target request response)
          result := .ok () }

variable {context client around req}

/-- There is one way to reach `proxy_with_retries`. -/
theorem Proxies.unique {target other : SocketAddr} {request second : Request}
    {result different : MzaniResult Bytes} {attempts more : List Attempt}
    (proxies : Proxies context client around target request result attempts)
    (others : Proxies context client around other second different more) :
    target = other ∧ request = second ∧ result = different ∧ attempts = more := by
  have sameTarget : target = other :=
    Except.ok.inj (proxies.selects.selected.symm.trans others.selects.selected)
  have sameRequest : request = second :=
    Except.ok.inj (proxies.parsed.symm.trans others.parsed)
  subst sameTarget sameRequest
  have same := proxies.proxied.symm.trans others.proxied
  exact ⟨rfl, rfl, congrArg Prod.fst same, congrArg Prod.snd same⟩

theorem ends_deliver {target : SocketAddr} {request : Request} {response : Bytes}
    {attempts : List Attempt}
    (proxies : Proxies context client around target request (.ok response) attempts) :
    Ends context client around req
      ((context.deliver client around.clock req target request.toBytes.length response).after
        (untilProxied context client req target request attempts)) := by
  unfold deliver
  split
  case h_1 error got broken => exact .clientWrite proxies broken
  case h_2 got written =>
      split
      case h_1 error broken => exact .clientFlush proxies written broken
      case h_2 flushed =>
          split
          case h_1 error broken => exact .clientShutdown proxies written flushed broken
          case h_2 done => exact .complete proxies written flushed done

theorem ends_serve {target : SocketAddr} (selects : Selects context client around target) :
    Ends context client around req
      ((context.serve client around req target).after (untilAccepted context client req)) := by
  unfold serve
  split
  case h_1 request parsed =>
      unfold forward
      cases proxied : context.toContext.proxyWithRetries around.network request.toBytes
          target with
      | mk result attempts =>
          dsimp only
          rw [proxied]
          cases result with
          | error error => exact .proxy ⟨selects, parsed, proxied⟩
          | ok response => exact ends_deliver ⟨selects, parsed, proxied⟩
  case h_2 tooLarge => exact .bodyLimit selects tooLarge
  case h_3 error other failed => exact .parse selects failed other

/-- Each call takes one of the ways out. -/
theorem handleConnection_ends :
    Ends context client around req (context.handleConnection client around req) := by
  unfold handleConnection
  split
  case h_1 error failed => exact .setTimeout failed
  case h_2 timeoutSet =>
      split
      case h_1 target selected => exact ends_serve ⟨timeoutSet, selected⟩
      case h_2 none => exact .noBackend timeoutSet none
      case h_3 error other failed => exact .routing timeoutSet failed other

end

end WorkerContext

end Mzani
