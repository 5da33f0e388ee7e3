import Mzani.State.HandleConnection

/-!
# A call of `handle_connection`, step by step

What is left of a call, with each call of `select_backend` open until its
result is there.  With the results given, the steps are those of
`handle_connection`.
-/

namespace Mzani

open Support

/-- What is left of a call: it has returned, does something to the outside
next, or asks for a backend next. -/
inductive Task where
  | done (result : MzaniResult Unit)
  | perform (effect : Effect) (rest : Task)
  | select (rest : MzaniResult SocketAddr → Task)

namespace Task

/-- Effects before the rest. -/
def performAll (effects : List Effect) (rest : Task) : Task :=
  effects.foldr perform rest

/-- A call that asks for no backend any more. -/
def ofHandled (handled : Handled) : Task :=
  performAll handled.effects (.done handled.result)

/-- The whole call, with what `select_backend` returns in turn. -/
def handled : Task → (Nat → MzaniResult SocketAddr) → Handled
  | .done result, _ => { effects := [], result }
  | .perform effect rest, selections => (rest.handled selections).after [effect]
  | .select rest, selections =>
      (rest (selections 0)).handled fun number => selections (number + 1)

end Task

/-- What a call of `handle_connection` meets besides the routing: its client,
the outcome of connecting, and the readings of the clock. -/
structure Meets (σ τ : Type) where
  client : ClientSocket σ
  connect : Nat → SocketAddr → Except IoError (Connection τ)
  clock : Nat → Duration

section

variable {σ τ : Type} [Read τ]

/-- The loop of `proxy_with_retries`, with `left` rounds to go and the attempts
made so far; `conclude` is what follows the loop. -/
def Context.retryTask (context : Context)
    (connect : Nat → SocketAddr → Except IoError (Connection τ)) (bytes : Bytes)
    (attempts : Nat) (conclude : MzaniResult Bytes → List Attempt → Handled) :
    (left attempt : Nat) → SocketAddr → Option MzaniError → List Attempt → Task
  | 0, _, _, lastError, made =>
      .ofHandled (conclude (.error (lastError.getD (.io "proxy failed"))) made)
  | left + 1, attempt, target, _, made =>
      let attempted := proxyToBackend bytes target context.limits context.timeouts.read
        (connect attempt target)
      let made := made ++ [attempted]
      match attempted.result with
      | .ok response => .ofHandled (conclude (.ok response) made)
      | .error error =>
          if attempts ≤ attempt + 1 then .ofHandled (conclude (.error error) made)
          else
            .select fun selected =>
              context.retryTask connect bytes attempts conclude left (attempt + 1)
                (selected.toOption.getD target) (some error) made

namespace WorkerContext

variable (context : WorkerContext) (req : RequestContext)

/-- From the outcome of proxying on. -/
def conclude (client : ClientSocket σ) (clock : Nat → Duration) (target : SocketAddr)
    (requestLen : Nat) (result : MzaniResult Bytes) (attempts : List Attempt) : Handled :=
  Handled.after [.proxy attempts] <|
    match result with
    | .error error =>
        { effects :=
            [.emitLog (requestFailed req (clock 0) "proxy" error.display),
              .recordMetrics (failedStats req target requestLen (clock 1))]
          result := .error error }
    | .ok response => context.deliver client clock req target requestLen response

/-- From a parsed request on. -/
def forwardTask (meets : Meets σ τ) (target : SocketAddr) (request : Request) : Task :=
  let requestBytes := request.toBytes
  let attempts := (saturatingSucc context.maxBackendRetries).val
  .performAll
    [.emitLog (requestParsed req request), .emitLog (backendConnect req target)] <|
    context.toContext.retryTask meets.connect requestBytes attempts
      (context.conclude req meets.client meets.clock target requestBytes.length)
      attempts 0 target none []

variable [Read σ]

/-- From a selected backend on. -/
def serveTask (meets : Meets σ τ) (target : SocketAddr) : Task :=
  .perform (.emitLog (backendSelected req target)) <|
    match (Request.fromStream context.limits meets.client.stream).1 with
    | .ok request => context.forwardTask req meets target request
    | .error .bodyTooLarge =>
        .ofHandled
          { effects := meets.client.respond .payloadTooLarge ++
              [.emitLog (requestFailed req (meets.clock 0) "body_limit"
                "body too large".toList)]
            result := .error .bodyTooLarge }
    | .error error => .ofHandled (failWith req (meets.clock 0) "parse" error)

/-- `handle_connection` before its first step. -/
def handleTask (meets : Meets σ τ) : Task :=
  match meets.client.setReadTimeout context.timeouts.read with
  | .error error => .ofHandled (failWith req (meets.clock 0) "set_timeout" (.ofIo error))
  | .ok () =>
      .perform
        (.emitLog (connectionAccepted req meets.client.peerText context.socketAddr)) <|
        .select fun
          | .ok target => context.serveTask req meets target
          | .error .noHealthyBackend =>
              .ofHandled
                { effects := meets.client.respond (.serviceUnavailable "no healthy backends") ++
                    [.emitLog (requestFailed req (meets.clock 0) "no_backend"
                      "no healthy backends".toList)]
                  result := .error .noHealthyBackend }
          | .error error => .done (.error error)

end WorkerContext

end

/-! ## The steps together -/

theorem Handled.after_after (first second : List Effect) (handled : Handled) :
    (handled.after second).after first = handled.after (first ++ second) := by
  simp [Handled.after]

namespace Task

variable {selections : Nat → MzaniResult SocketAddr}

theorem handled_performAll (effects : List Effect) (rest : Task) :
    (performAll effects rest).handled selections = (rest.handled selections).after effects := by
  induction effects with
  | nil => rfl
  | cons effect effects ih =>
      change ((performAll effects rest).handled selections).after [effect] = _
      rw [ih, Handled.after_after]
      rfl

@[simp] theorem handled_ofHandled (whole : Handled) :
    (ofHandled whole).handled selections = whole := by
  rw [ofHandled, handled_performAll]
  simp [handled, Handled.after]

end Task

section

variable {σ τ : Type} [Read τ]

/-- The loop asks for backends as `proxy_with_retries` does. -/
theorem handled_retryTask (context : Context) (network : Network τ) (bytes : Bytes)
    (attempts : Nat) (conclude : MzaniResult Bytes → List Attempt → Handled)
    (left attempt : Nat) (target : SocketAddr) (lastError : Option MzaniError)
    (made : List Attempt) :
    (context.retryTask network.connect bytes attempts conclude left attempt target lastError
        made).handled (fun number => network.selectBackend (attempt + number)) =
      conclude
        (context.retryLoop network bytes attempts left attempt target lastError).1
        (made ++ (context.retryLoop network bytes attempts left attempt target lastError).2) := by
  induction left generalizing attempt target lastError made with
  | zero => simp [Context.retryTask, Context.retryLoop]
  | succ left ih =>
      rw [Context.retryTask, Context.retryLoop]
      dsimp only
      change Task.handled
          (match (context.attempt network bytes attempt target).result with
          | .ok response => _
          | .error error => _) _ = _
      cases (context.attempt network bytes attempt target).result with
      | ok response => exact Task.handled_ofHandled _
      | error error =>
          dsimp only
          split
          · exact Task.handled_ofHandled _
          · have shifted : (fun number => network.selectBackend (attempt + (number + 1))) =
                fun number => network.selectBackend (attempt + 1 + number) := by
              funext number
              congr 1
              omega
            rw [Task.handled, shifted, ih]
            simp [Context.attempt]

variable (context : WorkerContext) (client : ClientSocket σ) (around : Surroundings τ)
  (req : RequestContext)

/-- What a call meets in its surroundings. -/
def Surroundings.meets : Meets σ τ where
  client := client
  connect := around.network.connect
  clock := around.clock

theorem handled_forwardTask (target : SocketAddr) (request : Request) :
    (context.forwardTask req (around.meets client) target request).handled
        around.network.selectBackend =
      context.forward client around req target request := by
  have loop := handled_retryTask context.toContext around.network request.toBytes
    (saturatingSucc context.maxBackendRetries).val
    (context.conclude req client around.clock target request.toBytes.length)
    (saturatingSucc context.maxBackendRetries).val 0 target none []
  simp only [Nat.zero_add, List.nil_append] at loop
  rw [WorkerContext.forwardTask, Task.handled_performAll]
  refine (congrArg (Handled.after _) loop).trans ?_
  unfold WorkerContext.conclude
  exact Handled.after_after _ _ _

variable [Read σ]

theorem handled_serveTask (target : SocketAddr) :
    (context.serveTask req (around.meets client) target).handled
        around.network.selectBackend =
      context.serve client around req target := by
  unfold WorkerContext.serveTask WorkerContext.serve
  rw [Task.handled]
  congr 1
  change Task.handled (match (Request.fromStream context.limits client.stream).1 with
    | .ok request => _
    | .error .bodyTooLarge => _
    | .error error => _) _ = _
  cases (Request.fromStream context.limits client.stream).1 with
  | ok request => exact handled_forwardTask context client around req target request
  | error error => cases error <;> exact Task.handled_ofHandled _

/-- With the results of its selections a call is one of `handle_connection`. -/
theorem handled_handleTask :
    (context.handleTask req (around.meets client)).handled
        (fun | 0 => around.selected | retry + 1 => around.network.selectBackend retry) =
      context.handleConnection client around req := by
  unfold WorkerContext.handleTask WorkerContext.handleConnection
  change Task.handled (match client.setReadTimeout context.timeouts.read with
    | .error error => _
    | .ok () => _) _ = _
  cases client.setReadTimeout context.timeouts.read with
  | error error => exact Task.handled_ofHandled _
  | ok value =>
      dsimp only
      rw [Task.handled, Task.handled]
      congr 1
      dsimp only
      cases around.selected with
      | ok target => exact handled_serveTask context client around req target
      | error error =>
          cases error with
          | noHealthyBackend => exact Task.handled_ofHandled _
          | _ => rfl

end

end Mzani
