import Mzani.State.Context

/-!
# The retry loop

What `proxy_with_retries` returns, and the attempts that it makes: the first
one that is answered ends the loop, and otherwise the last one allowed does.
-/

namespace Mzani

open Support

section

variable {σ : Type} [Read σ] (context : Context) (network : Network σ) (bytes : Bytes)
  (firstTarget : SocketAddr)

/-- The attempt with this number, when all before it fail. -/
def Context.made (attempt : Nat) : Attempt :=
  context.attempt network bytes attempt (network.target firstTarget attempt)

/-- The attempt gets no response. -/
def Context.Fails (attempt : Nat) : Prop :=
  ∃ error, (context.made network bytes firstTarget attempt).result = .error error

/-- The number of attempts that are allowed. -/
def Context.allowed : Nat :=
  (saturatingSucc context.maxBackendRetries).val

/-- How the loop can end from one of its rounds on. -/
inductive Context.LoopEnds (start : Nat) : MzaniResult Bytes × List Attempt → Prop where
  | answered {attempt : Nat} {response : Bytes} :
      start ≤ attempt → attempt < context.allowed →
      (∀ earlier, start ≤ earlier → earlier < attempt →
        context.Fails network bytes firstTarget earlier) →
      (context.made network bytes firstTarget attempt).result = .ok response →
      LoopEnds start
        (.ok response, (List.range' start (attempt + 1 - start)).map
          (context.made network bytes firstTarget))
  | exhausted {error : MzaniError} :
      start < context.allowed →
      (∀ attempt, start ≤ attempt → attempt < context.allowed →
        context.Fails network bytes firstTarget attempt) →
      (context.made network bytes firstTarget (context.allowed - 1)).result =
        .error error →
      LoopEnds start
        (.error error, (List.range' start (context.allowed - start)).map
          (context.made network bytes firstTarget))

end

section

variable {σ : Type} [Read σ] {context : Context} {network : Network σ} {bytes : Bytes}
  {firstTarget : SocketAddr} {start : Nat}

theorem Context.allowed_pos : 0 < context.allowed := by
  have one := one_le_saturatingSucc context.maxBackendRetries
  exact one

/-- A round that fails before the last one goes on to the next round. -/
theorem retryLoop_fails {left : Nat} {error : MzaniError} (lastError : Option MzaniError)
    (failed : (context.made network bytes firstTarget start).result = .error error)
    (more : start + 1 < context.allowed) :
    context.retryLoop network bytes context.allowed (left + 1) start
        (network.target firstTarget start) lastError =
      ((context.retryLoop network bytes context.allowed left (start + 1)
          (network.target firstTarget (start + 1)) (some error)).1,
        context.made network bytes firstTarget start ::
          (context.retryLoop network bytes context.allowed left (start + 1)
            (network.target firstTarget (start + 1)) (some error)).2) := by
  unfold Context.made at failed ⊢
  rw [Context.retryLoop]
  dsimp only
  rw [failed]
  dsimp only
  rw [if_neg (Nat.not_le_of_lt more)]
  rfl

/-- One more failed round in front. -/
theorem Context.LoopEnds.cons {outcome : MzaniResult Bytes × List Attempt}
    (ends : context.LoopEnds network bytes firstTarget (start + 1) outcome)
    (fails : context.Fails network bytes firstTarget start) :
    context.LoopEnds network bytes firstTarget start
      (outcome.1, context.made network bytes firstTarget start :: outcome.2) := by
  cases ends with
  | @answered attempt response reached inside before answer =>
      have count : attempt + 1 - start = (attempt + 1 - (start + 1)) + 1 := by omega
      have list : context.made network bytes firstTarget start ::
          (List.range' (start + 1) (attempt + 1 - (start + 1))).map
            (context.made network bytes firstTarget) =
          (List.range' start (attempt + 1 - start)).map
            (context.made network bytes firstTarget) := by
        rw [count, List.range'_succ, List.map_cons]
      dsimp only
      rw [list]
      apply LoopEnds.answered (Nat.le_of_succ_le reached) inside _ answer
      intro earlier from' isBefore
      rcases Nat.eq_or_lt_of_le from' with here | later
      · rwa [← here]
      · exact before earlier later isBefore
  | @exhausted error room all last =>
      have count : context.allowed - start = (context.allowed - (start + 1)) + 1 := by omega
      have list : context.made network bytes firstTarget start ::
          (List.range' (start + 1) (context.allowed - (start + 1))).map
            (context.made network bytes firstTarget) =
          (List.range' start (context.allowed - start)).map
            (context.made network bytes firstTarget) := by
        rw [count, List.range'_succ, List.map_cons]
      dsimp only
      rw [list]
      apply LoopEnds.exhausted (Nat.lt_of_succ_lt room) _ last
      intro attempt from' inside
      rcases Nat.eq_or_lt_of_le from' with here | later
      · rwa [← here]
      · exact all attempt later inside

theorem loopEnds_answered {response : Bytes} (inside : start < context.allowed)
    (answer : (context.made network bytes firstTarget start).result = .ok response) :
    context.LoopEnds network bytes firstTarget start
      (.ok response, [context.made network bytes firstTarget start]) := by
  have one : [context.made network bytes firstTarget start] =
      (List.range' start (start + 1 - start)).map
        (context.made network bytes firstTarget) := by
    simp
  rw [one]
  apply Context.LoopEnds.answered le_rfl inside _ answer
  intro earlier reached isBefore
  omega

theorem loopEnds_last {error : MzaniError} (last : start + 1 = context.allowed)
    (failed : (context.made network bytes firstTarget start).result = .error error) :
    context.LoopEnds network bytes firstTarget start
      (.error error, [context.made network bytes firstTarget start]) := by
  have one : [context.made network bytes firstTarget start] =
      (List.range' start (context.allowed - start)).map
        (context.made network bytes firstTarget) := by
    simp [← last]
  rw [one]
  apply Context.LoopEnds.exhausted (by omega)
  · intro attempt reached inside
    obtain rfl : attempt = start := by omega
    exact ⟨error, failed⟩
  · rwa [← last, Nat.add_sub_cancel]

theorem retryLoop_ends {left : Nat} (rounds : start + (left + 1) = context.allowed)
    (lastError : Option MzaniError) :
    context.LoopEnds network bytes firstTarget start
      (context.retryLoop network bytes context.allowed (left + 1) start
        (network.target firstTarget start) lastError) := by
  induction left generalizing start lastError with
  | zero =>
      cases result : (context.made network bytes firstTarget start).result with
      | ok response =>
          rw [retryLoop_ok lastError result]
          exact loopEnds_answered (by omega) result
      | error error =>
          rw [retryLoop_last lastError result (by omega)]
          exact loopEnds_last rounds result
  | succ left ih =>
      cases result : (context.made network bytes firstTarget start).result with
      | ok response =>
          rw [retryLoop_ok lastError result]
          exact loopEnds_answered (by omega) result
      | error error =>
          rw [retryLoop_fails lastError result (by omega)]
          exact (ih (by omega) (some error)).cons ⟨error, result⟩

/-- How `proxy_with_retries` ends. -/
theorem proxyWithRetries_ends (context : Context) (network : Network σ) (bytes : Bytes)
    (firstTarget : SocketAddr) :
    context.LoopEnds network bytes firstTarget 0
      (context.proxyWithRetries network bytes firstTarget) := by
  have positive : 0 < context.allowed := Context.allowed_pos
  have rounds : 0 + ((context.allowed - 1) + 1) = context.allowed := by omega
  have ends : context.LoopEnds network bytes firstTarget 0
      (context.retryLoop network bytes context.allowed (context.allowed - 1 + 1) 0
        (network.target firstTarget 0) none) :=
    retryLoop_ends rounds none
  have count : context.allowed - 1 + 1 = context.allowed := by omega
  rwa [count] at ends

/-- It fails with an error if all attempts fail, the last one with that error. -/
theorem proxyWithRetries_error_iff {error : MzaniError} :
    (∃ attempts, context.proxyWithRetries network bytes firstTarget =
        (.error error, attempts)) ↔
      (∀ attempt < context.allowed, context.Fails network bytes firstTarget attempt) ∧
        (context.made network bytes firstTarget (context.allowed - 1)).result =
          .error error := by
  have ends := proxyWithRetries_ends context network bytes firstTarget
  generalize context.proxyWithRetries network bytes firstTarget = outcome at ends
  cases ends with
  | @answered attempt response _ inside before answer =>
      constructor
      · rintro ⟨attempts, same⟩
        cases same
      · rintro ⟨all, _⟩
        obtain ⟨failure, failed⟩ := all attempt inside
        rw [answer] at failed
        cases failed
  | @exhausted failure _ all last =>
      constructor
      · rintro ⟨attempts, same⟩
        cases same
        exact ⟨fun attempt inside => all attempt (Nat.zero_le _) inside, last⟩
      · rintro ⟨_, sameLast⟩
        rw [last, Except.error.injEq] at sameLast
        subst sameLast
        exact ⟨_, rfl⟩

/-- A response comes from a backend that took the connection. -/
theorem attempt_eq_ok {attempt : Nat} {target : SocketAddr} {response : Bytes}
    (answer : (context.attempt network bytes attempt target).result = .ok response) :
    ∃ connection, network.connect attempt target = .ok connection ∧
      (readHttpResponse context.limits connection.response).1 = .ok response := by
  unfold Context.attempt at answer
  cases connects : network.connect attempt target with
  | error error =>
      rw [connects] at answer
      cases answer
  | ok connection =>
      refine ⟨connection, rfl, ?_⟩
      rw [connects, proxyToBackend] at answer
      split at answer
      · cases answer
      · split at answer
        · cases answer
        · exact answer

/-- The first attempt with a response. -/
structure Context.ServedBy (context : Context) (network : Network σ) (bytes : Bytes)
    (firstTarget : SocketAddr) (attempt : Nat) (response : Bytes) : Prop where
  inside : attempt < context.allowed
  before : ∀ earlier < attempt, context.Fails network bytes firstTarget earlier
  answer : (context.made network bytes firstTarget attempt).result = .ok response

theorem proxyWithRetries_ok {response : Bytes} {attempts : List Attempt}
    (proxied : context.proxyWithRetries network bytes firstTarget =
      (.ok response, attempts)) :
    ∃ attempt, context.ServedBy network bytes firstTarget attempt response ∧
      attempts = (List.range (attempt + 1)).map (context.made network bytes firstTarget) := by
  have ends := proxyWithRetries_ends context network bytes firstTarget
  rw [proxied] at ends
  cases ends with
  | @answered attempt _ _ inside before answer =>
      refine ⟨attempt, ⟨inside, fun earlier => before earlier (Nat.zero_le _), answer⟩, ?_⟩
      rw [List.range_eq_range']
      rfl

/-- The attempt that is answered is the first one that is. -/
theorem Context.ServedBy.unique {attempt other : Nat} {response second : Bytes}
    (served : context.ServedBy network bytes firstTarget attempt response)
    (others : context.ServedBy network bytes firstTarget other second) :
    attempt = other ∧ response = second := by
  have answeredBefore : ∀ {first last : Nat} {early late : Bytes},
      context.ServedBy network bytes firstTarget first early →
      context.ServedBy network bytes firstTarget last late → ¬first < last := by
    intro first last early late here there isBefore
    obtain ⟨error, failed⟩ := there.before first isBefore
    rw [here.answer] at failed
    cases failed
  have same : attempt = other := by
    have notBefore := answeredBefore served others
    have notAfter := answeredBefore others served
    omega
  subst same
  exact ⟨rfl, Except.ok.inj (served.answer.symm.trans others.answer)⟩

/-- The response of the first attempt that is answered is returned. -/
theorem proxyWithRetries_of_served {attempt : Nat} {response : Bytes}
    (served : context.ServedBy network bytes firstTarget attempt response) :
    (context.proxyWithRetries network bytes firstTarget).1 = .ok response := by
  cases outcome : context.proxyWithRetries network bytes firstTarget with
  | mk result attempts =>
      cases result with
      | ok other =>
          obtain ⟨first, others, _⟩ := proxyWithRetries_ok outcome
          rw [(served.unique others).2]
      | error error =>
          have all := (proxyWithRetries_error_iff.mp ⟨attempts, outcome⟩).1
          obtain ⟨failure, failed⟩ := all attempt served.inside
          rw [served.answer] at failed
          cases failed

end

end Mzani
