import Mzani.Core.Response
import Mzani.State.Backend

/-!
# Proxying with retries

The retry loop of `Context` against any sequence of backend outcomes.  A
request stays on one backend exactly if the first backend that takes the
connection, while a retry is left, answers.
-/

namespace Mzani

open Support

/-- The part of `Context` that proxying reads. -/
structure Context where
  limits : Limits
  timeouts : Timeouts
  maxBackendRetries : U32
  deriving DecidableEq

def Context.fromConfig (config : BalancerConfig) : MzaniResult Context := do
  config.validate
  .ok
    { limits := config.limits
      timeouts := config.timeouts
      maxBackendRetries := config.maxBackendRetries }

/-- A connected backend: it takes `accepts` bytes, then writing fails, and
`response` is what it sends. -/
structure Connection (σ : Type) where
  setReadTimeout : Duration → Except IoError Unit
  accepts : Nat
  writeError : IoError
  response : σ

/-- `write_all`, with the bytes that the backend has got from it. -/
def Connection.writeAll {σ : Type} (connection : Connection σ) (bytes : Bytes) :
    Except IoError Unit × Bytes :=
  if bytes.length ≤ connection.accepts then (.ok (), bytes)
  else (.error connection.writeError, bytes.take connection.accepts)

/-- What the attempts of one request meet: the outcome of connecting, and the
backend that is selected after a failed attempt. -/
structure Network (σ : Type) where
  connect : Nat → SocketAddr → Except IoError (Connection σ)
  selectBackend : Nat → MzaniResult SocketAddr

/-- One call of `proxy_to_backend`: whether the backend took the connection,
what it got, whether that was the whole request, and the result. -/
structure Attempt where
  target : SocketAddr
  connected : Bool
  written : Bytes
  complete : Bool
  result : MzaniResult Bytes
  deriving DecidableEq

section

variable {σ : Type} [Read σ]

def proxyToBackend (bytes : Bytes) (target : SocketAddr) (limits : Limits)
    (readTimeout : Duration) (outcome : Except IoError (Connection σ)) : Attempt :=
  match outcome with
  | .error error =>
      { target, connected := false, written := [], complete := false,
        result := .error (.ofIo error) }
  | .ok connection =>
      match connection.setReadTimeout readTimeout with
      | .error error =>
          { target, connected := true, written := [], complete := false,
            result := .error (.ofIo error) }
      | .ok () =>
          match connection.writeAll bytes with
          | (.error error, written) =>
              { target, connected := true, written, complete := false,
                result := .error (.ofIo error) }
          | (.ok (), written) =>
              { target, connected := true, written, complete := true,
                result := (readHttpResponse limits connection.response).1 }

/-- One round of the loop of `proxy_with_retries`. -/
def Context.attempt (context : Context) (network : Network σ) (bytes : Bytes)
    (attempt : Nat) (target : SocketAddr) : Attempt :=
  proxyToBackend bytes target context.limits context.timeouts.read
    (network.connect attempt target)

/-- The loop of `proxy_with_retries`, with `left` rounds to go; also the
attempts made. -/
def Context.retryLoop (context : Context) (network : Network σ) (bytes : Bytes)
    (attempts : Nat) :
    (left attempt : Nat) → SocketAddr → Option MzaniError →
      MzaniResult Bytes × List Attempt
  | 0, _, _, lastError => (.error (lastError.getD (.io "proxy failed")), [])
  | left + 1, attempt, target, _ =>
      let made := context.attempt network bytes attempt target
      match made.result with
      | .ok response => (.ok response, [made])
      | .error error =>
          if attempts ≤ attempt + 1 then (.error error, [made])
          else
            let target := (network.selectBackend attempt).toOption.getD target
            let (result, more) :=
              context.retryLoop network bytes attempts left (attempt + 1) target
                (some error)
            (result, made :: more)

def Context.proxyWithRetries (context : Context) (network : Network σ)
    (bytes : Bytes) (firstTarget : SocketAddr) : MzaniResult Bytes × List Attempt :=
  let attempts := (saturatingSucc context.maxBackendRetries).val
  context.retryLoop network bytes attempts attempts 0 firstTarget none

/-- A further backend is tried only after a failure to connect, and once a
backend has the whole request no other one gets any of it. -/
structure AtMostOnce (attempts : List Attempt) : Prop where
  afterConnectFailure : attempts.IsChain fun previous _ => previous.connected = false
  writtenOnce : attempts.Pairwise fun earlier later =>
    earlier.complete = true → later.written = []

/-- The target of an attempt, when all attempts before it fail. -/
def Network.target (network : Network σ) (firstTarget : SocketAddr) : Nat → SocketAddr
  | 0 => firstTarget
  | attempt + 1 =>
      (network.selectBackend attempt).toOption.getD (network.target firstTarget attempt)

/-- The backend takes the whole request and sends a response that is well
formed and within the limits. -/
structure Connection.Answers (connection : Connection σ) (context : Context)
    (bytes : Bytes) : Prop where
  timeoutSet : connection.setReadTimeout context.timeouts.read = .ok ()
  takesAll : bytes.length ≤ connection.accepts
  responds : ∃ response,
    (readHttpResponse context.limits connection.response).1 = .ok response

/-- From the attempt on, the first backend that takes the connection answers,
unless it is the last one allowed. -/
def Network.FirstAnswers (network : Network σ) (context : Context) (bytes : Bytes)
    (firstTarget : SocketAddr) (attempts start : Nat) : Prop :=
  ∀ attempt connection, start ≤ attempt → attempt + 1 < attempts →
    (∀ earlier, start ≤ earlier → earlier < attempt →
      ∃ error, network.connect earlier (network.target firstTarget earlier) =
        .error error) →
    network.connect attempt (network.target firstTarget attempt) = .ok connection →
    connection.Answers context bytes

end

section

variable {σ : Type} [Read σ] {context : Context} {network : Network σ}
  {connection : Connection σ} {bytes : Bytes} {target firstTarget : SocketAddr}
  {attempts start attempt : Nat}

theorem attempt_of_refused {error : IoError} (context : Context) (bytes : Bytes)
    (refused : network.connect attempt target = .error error) :
    context.attempt network bytes attempt target =
      { target, connected := false, written := [], complete := false,
        result := .error (.ofIo error) } := by
  rw [Context.attempt, refused, proxyToBackend]

theorem connected_attempt
    (connects : network.connect attempt target = .ok connection) :
    (context.attempt network bytes attempt target).connected = true := by
  rw [Context.attempt, connects, proxyToBackend]
  split
  · rfl
  · split <;> rfl

theorem attempt_ok_iff
    (connects : network.connect attempt target = .ok connection) :
    (∃ response, (context.attempt network bytes attempt target).result = .ok response) ↔
      connection.Answers context bytes := by
  have fields : connection.Answers context bytes ↔
      connection.setReadTimeout context.timeouts.read = .ok () ∧
        bytes.length ≤ connection.accepts ∧
        ∃ response, (readHttpResponse context.limits connection.response).1 =
          .ok response :=
    ⟨fun answers => ⟨answers.timeoutSet, answers.takesAll, answers.responds⟩,
      fun ⟨timeoutSet, takesAll, responds⟩ => ⟨timeoutSet, takesAll, responds⟩⟩
  rw [fields, Context.attempt, connects, proxyToBackend, Connection.writeAll]
  cases connection.setReadTimeout context.timeouts.read with
  | error error => simp
  | ok value =>
      by_cases takesAll : bytes.length ≤ connection.accepts
      · simp [takesAll]
      · simp [takesAll]

theorem atMostOnce_nil : AtMostOnce [] := ⟨.nil, .nil⟩

theorem atMostOnce_singleton (made : Attempt) : AtMostOnce [made] :=
  ⟨.singleton made, List.pairwise_singleton _ _⟩

theorem atMostOnce_cons_iff {made : Attempt} {more : List Attempt}
    (refused : made.connected = false) (incomplete : made.complete = false) :
    AtMostOnce (made :: more) ↔ AtMostOnce more := by
  constructor
  · intro once
    exact ⟨once.afterConnectFailure.tail, once.writtenOnce.tail⟩
  · intro once
    refine ⟨?_, List.pairwise_cons.mpr ⟨?_, once.writtenOnce⟩⟩
    · exact once.afterConnectFailure.cons fun _ _ => refused
    · intro later _ complete
      rw [incomplete] at complete
      cases complete

theorem not_atMostOnce_cons {made : Attempt} {more : List Attempt}
    (connected : made.connected = true) (further : more ≠ []) :
    ¬AtMostOnce (made :: more) := by
  intro once
  obtain ⟨next, rest, rfl⟩ := List.exists_cons_of_ne_nil further
  have refused := (List.isChain_cons_cons.mp once.afterConnectFailure).1
  rw [connected] at refused
  cases refused

/-- A round that succeeds is the last one. -/
theorem retryLoop_ok {left : Nat} {response : Bytes} (lastError : Option MzaniError)
    (answered : (context.attempt network bytes attempt target).result = .ok response) :
    context.retryLoop network bytes attempts (left + 1) attempt target lastError =
      (.ok response, [context.attempt network bytes attempt target]) := by
  rw [Context.retryLoop]
  dsimp only
  rw [answered]

theorem retryLoop_last {left : Nat} {error : MzaniError} (lastError : Option MzaniError)
    (failed : (context.attempt network bytes attempt target).result = .error error)
    (last : attempts ≤ attempt + 1) :
    context.retryLoop network bytes attempts (left + 1) attempt target lastError =
      (.error error, [context.attempt network bytes attempt target]) := by
  rw [Context.retryLoop]
  dsimp only
  rw [failed]
  exact if_pos last

/-- A round that fails before the last one: the loop goes on with the next
target. -/
theorem retryLoop_next {left : Nat} {error : MzaniError} (lastError : Option MzaniError)
    (failed : (context.attempt network bytes attempt
      (network.target firstTarget attempt)).result = .error error)
    (allowed : attempt + 1 < attempts) :
    (context.retryLoop network bytes attempts (left + 1) attempt
        (network.target firstTarget attempt) lastError).2 =
      context.attempt network bytes attempt (network.target firstTarget attempt) ::
        (context.retryLoop network bytes attempts left (attempt + 1)
          (network.target firstTarget (attempt + 1)) (some error)).2 := by
  rw [Context.retryLoop]
  dsimp only
  rw [failed]
  dsimp only
  rw [if_neg (Nat.not_le_of_lt allowed)]
  rfl

theorem retryLoop_ne_nil (left : Nat) (lastError : Option MzaniError) :
    (context.retryLoop network bytes attempts (left + 1) attempt target
      lastError).2 ≠ [] := by
  rw [Context.retryLoop]
  dsimp only
  split
  · exact List.cons_ne_nil _ _
  · split
    · exact List.cons_ne_nil _ _
    · exact List.cons_ne_nil _ _

theorem Network.firstAnswers_last (last : attempts ≤ start + 1) :
    network.FirstAnswers context bytes firstTarget attempts start := by
  intro attempt connection reached allowed
  omega

theorem Network.firstAnswers_of_refused {error : IoError}
    (refused : network.connect start (network.target firstTarget start) = .error error) :
    network.FirstAnswers context bytes firstTarget attempts start ↔
      network.FirstAnswers context bytes firstTarget attempts (start + 1) := by
  constructor
  · intro answers attempt connection reached allowed before connects
    refine answers attempt connection (by omega) allowed ?_ connects
    intro earlier started isBefore
    by_cases first : earlier = start
    · exact ⟨error, by rw [first, refused]⟩
    · exact before earlier (by omega) isBefore
  · intro answers attempt connection reached allowed before connects
    by_cases first : attempt = start
    · rw [first, refused] at connects
      cases connects
    · exact answers attempt connection (by omega) allowed
        (fun earlier started isBefore => before earlier (by omega) isBefore) connects

theorem Network.firstAnswers_of_connected (allowed : start + 1 < attempts)
    (connects : network.connect start (network.target firstTarget start) =
      .ok connection) :
    network.FirstAnswers context bytes firstTarget attempts start ↔
      connection.Answers context bytes := by
  constructor
  · intro answers
    refine answers start connection le_rfl allowed ?_ connects
    intro earlier started isBefore
    omega
  · intro answers attempt other reached _ before otherConnects
    by_cases first : attempt = start
    · rw [first, connects] at otherConnects
      rwa [← Except.ok.inj otherConnects]
    · obtain ⟨error, refused⟩ := before start le_rfl (by omega)
      rw [connects] at refused
      cases refused

/-- The loop from any of its rounds on. -/
theorem retryLoop_atMostOnce {left : Nat} (rounds : start + left = attempts)
    (lastError : Option MzaniError) :
    AtMostOnce (context.retryLoop network bytes attempts left start
        (network.target firstTarget start) lastError).2 ↔
      network.FirstAnswers context bytes firstTarget attempts start := by
  induction left generalizing start lastError with
  | zero =>
      exact iff_of_true atMostOnce_nil (Network.firstAnswers_last (by omega))
  | succ left ih =>
      cases result : (context.attempt network bytes start
          (network.target firstTarget start)).result with
      | ok response =>
          rw [retryLoop_ok lastError result]
          refine iff_of_true (atMostOnce_singleton _) ?_
          by_cases allowed : start + 1 < attempts
          · cases outcome : network.connect start (network.target firstTarget start) with
            | error refusal =>
                rw [attempt_of_refused context bytes outcome] at result
                cases result
            | ok connection =>
                rw [Network.firstAnswers_of_connected allowed outcome]
                exact (attempt_ok_iff outcome).mp ⟨response, result⟩
          · exact Network.firstAnswers_last (Nat.le_of_not_lt allowed)
      | error error =>
          by_cases allowed : start + 1 < attempts
          · rw [retryLoop_next lastError result allowed]
            cases outcome : network.connect start (network.target firstTarget start) with
            | error refusal =>
                have made := attempt_of_refused context bytes outcome
                rw [atMostOnce_cons_iff (by rw [made]) (by rw [made]),
                  Network.firstAnswers_of_refused outcome]
                exact ih (by omega) (some error)
            | ok connection =>
                -- the loop goes on although the backend was reached
                obtain ⟨rounds', rfl⟩ : ∃ rounds', left = rounds' + 1 :=
                  ⟨left - 1, by omega⟩
                rw [Network.firstAnswers_of_connected allowed outcome]
                refine iff_of_false
                  (not_atMostOnce_cons (connected_attempt outcome) (retryLoop_ne_nil _ _)) ?_
                intro answers
                obtain ⟨response, answered⟩ := (attempt_ok_iff outcome).mpr answers
                rw [answered] at result
                cases result
          · have last := Nat.le_of_not_lt allowed
            rw [retryLoop_last lastError result last]
            exact iff_of_true (atMostOnce_singleton _) (Network.firstAnswers_last last)

/-- A request is delivered at most once exactly if the first backend that takes
the connection, while a retry is left, answers. -/
theorem Context.proxyWithRetries_atMostOnce_iff {σ : Type} [Read σ] (context : Context)
    (network : Network σ) (bytes : Bytes) (firstTarget : SocketAddr) :
    AtMostOnce (context.proxyWithRetries network bytes firstTarget).2 ↔
      network.FirstAnswers context bytes firstTarget
        (saturatingSucc context.maxBackendRetries).val 0 :=
  retryLoop_atMostOnce (Nat.zero_add _) none

end

/-- A request that moves money, as `to_bytes` gives it. -/
def payment : Bytes :=
  toUtf8 "POST /pay HTTP/1.1\r\nContent-Length: 2\r\n\r\nhi".toList

/-- Two healthy backends in turn: the first takes the request and then times
out, the second answers. -/
def slowFirst : Network (List Item) where
  connect attempt _ :=
    .ok
      { setReadTimeout := fun _ => .ok ()
        accepts := 1000
        writeError := ⟨.other, "broken pipe"⟩
        response :=
          if attempt = 0 then [.fail ⟨.timedOut, "timed out"⟩]
          else (toUtf8 "HTTP/1.1 204 No Content\r\n\r\n".toList).map .byte }
  selectBackend attempt :=
    ((BackendSet.new BackendSet.pair.backends).run
      (List.replicate (attempt + 1) .select)).selectNext.1

set_option maxRecDepth 4000 in
/-- The second backend gets the request that the first one has in full. -/
theorem payment_delivered_twice :
    ∃ context, Context.fromConfig BackendSet.pair = .ok context ∧
      let attempts :=
        (context.proxyWithRetries slowFirst payment (.v4 localhost 9000)).2
      attempts.map (fun made => (made.target, made.written, made.complete)) =
          [(.v4 localhost 9000, payment, true), (.v4 localhost 9001, payment, true)] ∧
        ¬AtMostOnce attempts := by
  refine ⟨{ limits := {}, timeouts := {}, maxBackendRetries := 1 }, by decide +kernel, ?_⟩
  exact ⟨by decide +kernel, fun once => absurd once.writtenOnce (by decide +kernel)⟩

end Mzani
