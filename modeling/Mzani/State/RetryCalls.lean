import Mzani.State.Retries

/-!
# The calls of the retry loop

`proxy_with_retries` in `u32` arithmetic, with every call it makes, against any
results of `proxy_to_backend` and `select_backend`.
-/

namespace Mzani

open Support

/-- What the calls of the loop return, by the number of such calls before. -/
structure RetryCalls where
  proxyToBackend : Nat → SocketAddr → MzaniResult Bytes
  selectBackend : Nat → MzaniResult SocketAddr

/-- A call with its result. -/
inductive RetryCall where
  | proxyToBackend (target : SocketAddr) (result : MzaniResult Bytes)
  | selectBackend (result : MzaniResult SocketAddr)
  deriving DecidableEq

/-- How the loop is left: by `return`, by `break` or at its end with
`last_error`, or by a panic. -/
inductive LoopExit where
  | returned (response : Bytes)
  | done (lastError : Option MzaniError)
  | overflowed
  deriving DecidableEq

/-- `count + 1` in `u32`, none if it overflows. -/
def checkedSucc (count : Nat) : Option Nat :=
  if count + 1 < u32Limit then some (count + 1) else none

namespace RetryCalls

variable (calls : RetryCalls) (firstTarget : SocketAddr)

/-- `for attempt in rounds`, after `made` attempts and `selected` selections. -/
def retryLoop (attempts : U32) :
    (rounds : List Nat) → (made selected : Nat) → SocketAddr → Option MzaniError →
      LoopExit × List RetryCall
  | [], _, _, _, lastError => (.done lastError, [])
  | attempt :: rounds, made, selected, target, _ =>
      let result := calls.proxyToBackend made target
      let call := .proxyToBackend target result
      match result with
      | .ok response => (.returned response, [call])
      | .error error =>
          match checkedSucc attempt with
          | none => (.overflowed, [call])
          | some next =>
              if attempts ≤ next then (.done (some error), [call])
              else
                let selection := calls.selectBackend selected
                let (exit, more) :=
                  retryLoop attempts rounds (made + 1) (selected + 1)
                    (selection.toOption.getD target) (some error)
                (exit, call :: .selectBackend selection :: more)

/-- The loop of `proxy_with_retries`. -/
def runLoop (maxBackendRetries : U32) : LoopExit × List RetryCall :=
  let attempts := saturatingSucc maxBackendRetries
  calls.retryLoop attempts (List.range attempts) 0 0 firstTarget none

/-- What `proxy_with_retries` returns; none is a panic. -/
def proxyWithRetries (maxBackendRetries : U32) : Option (MzaniResult Bytes) :=
  match (calls.runLoop firstTarget maxBackendRetries).1 with
  | .returned response => some (.ok response)
  | .done lastError => some (.error (lastError.getD (.io "proxy failed")))
  | .overflowed => none

/-! ## What the loop should do -/

/-- The target of an attempt: the last one that was selected. -/
def target : Nat → SocketAddr
  | 0 => firstTarget
  | attempt + 1 => (calls.selectBackend attempt).toOption.getD (target attempt)

def result (attempt : Nat) : MzaniResult Bytes :=
  calls.proxyToBackend attempt (calls.target firstTarget attempt)

def Fails (attempt : Nat) : Prop :=
  ∃ error, calls.result firstTarget attempt = .error error

def attemptCall (attempt : Nat) : RetryCall :=
  .proxyToBackend (calls.target firstTarget attempt) (calls.result firstTarget attempt)

/-- The calls from an attempt on, with so many retries: a selection between two
attempts, and none at the end. -/
def callsFrom (start : Nat) : (retries : Nat) → List RetryCall
  | 0 => [calls.attemptCall firstTarget start]
  | retries + 1 =>
      calls.attemptCall firstTarget start :: .selectBackend (calls.selectBackend start) ::
        callsFrom (start + 1) retries

/-- The most attempts that are made. -/
def mostAttempts (maxBackendRetries : U32) : Nat :=
  min (maxBackendRetries + 1) (u32Limit - 1)

def exitWith : MzaniResult Bytes → LoopExit
  | .ok response => .returned response
  | .error error => .done (some error)

/-- The run ends with this attempt: the first that succeeds, or the last that is
allowed. -/
structure EndsWith (maxBackendRetries : U32) (last : Nat) : Prop where
  allowed : last < mostAttempts maxBackendRetries
  failedBefore : ∀ earlier < last, calls.Fails firstTarget earlier
  final : calls.Fails firstTarget last → last + 1 = mostAttempts maxBackendRetries
  exit : (calls.runLoop firstTarget maxBackendRetries).1 =
    exitWith (calls.result firstTarget last)
  made : (calls.runLoop firstTarget maxBackendRetries).2 = calls.callsFrom firstTarget 0 last
  returned : calls.proxyWithRetries firstTarget maxBackendRetries =
    some (calls.result firstTarget last)

/-- How the loop ends from a round on. -/
inductive RoundsEnd (start left : Nat) : LoopExit × List RetryCall → Prop where
  | answered {retries : Nat} {response : Bytes} :
      retries < left →
      (∀ earlier < retries, calls.Fails firstTarget (start + earlier)) →
      calls.result firstTarget (start + retries) = .ok response →
      RoundsEnd start left (.returned response, calls.callsFrom firstTarget start retries)
  | exhausted {retries : Nat} {error : MzaniError} :
      retries + 1 = left →
      (∀ earlier < retries, calls.Fails firstTarget (start + earlier)) →
      calls.result firstTarget (start + retries) = .error error →
      RoundsEnd start left (.done (some error), calls.callsFrom firstTarget start retries)

variable {calls firstTarget}

/-! ## Rounds -/

theorem saturatingSucc_eq_mostAttempts (maxBackendRetries : U32) :
    (saturatingSucc maxBackendRetries).val = mostAttempts maxBackendRetries := by
  have small := maxBackendRetries.isLt
  unfold saturatingSucc mostAttempts
  split
  case isTrue fits =>
      change maxBackendRetries.val + 1 = _
      omega
  case isFalse full => omega

/-- No round of the loop is the last value of `u32`. -/
theorem checkedSucc_of_lt {attempt : Nat} {attempts : U32} (inside : attempt < attempts) :
    checkedSucc attempt = some (attempt + 1) := by
  have small := attempts.isLt
  rw [checkedSucc, if_pos (by omega)]

variable {attempts : U32} {start made selected : Nat} {rounds : List Nat}
  {lastError : Option MzaniError}

theorem round_answered {response : Bytes}
    (answer : calls.result firstTarget start = .ok response) :
    calls.retryLoop attempts (start :: rounds) start start (calls.target firstTarget start)
        lastError =
      (.returned response, [calls.attemptCall firstTarget start]) := by
  unfold attemptCall
  rw [answer]
  unfold RetryCalls.result at answer
  simp only [retryLoop, answer]

theorem round_last {error : MzaniError}
    (failed : calls.result firstTarget start = .error error) (last : start + 1 = attempts) :
    calls.retryLoop attempts (start :: rounds) start start (calls.target firstTarget start)
        lastError =
      (.done (some error), [calls.attemptCall firstTarget start]) := by
  have inside : start < attempts.val := by omega
  have next := checkedSucc_of_lt inside
  unfold attemptCall
  rw [failed]
  unfold RetryCalls.result at failed
  simp only [retryLoop, failed, next]
  rw [if_pos last.ge]

theorem round_next {error : MzaniError}
    (failed : calls.result firstTarget start = .error error) (more : start + 1 < attempts) :
    calls.retryLoop attempts (start :: rounds) start start (calls.target firstTarget start)
        lastError =
      let later := calls.retryLoop attempts rounds (start + 1) (start + 1)
        (calls.target firstTarget (start + 1)) (some error)
      (later.1, calls.attemptCall firstTarget start ::
        .selectBackend (calls.selectBackend start) :: later.2) := by
  have inside : start < attempts.val := by omega
  have next := checkedSucc_of_lt inside
  unfold attemptCall
  rw [failed]
  unfold RetryCalls.result at failed
  simp only [retryLoop, failed, next]
  rw [if_neg (Nat.not_le_of_lt more)]
  rfl

/-- One more failed round in front. -/
theorem RoundsEnd.cons {left : Nat} {run : LoopExit × List RetryCall}
    (fails : calls.Fails firstTarget start)
    (ends : calls.RoundsEnd firstTarget (start + 1) left run) :
    calls.RoundsEnd firstTarget start (left + 1)
      (run.1, calls.attemptCall firstTarget start ::
        .selectBackend (calls.selectBackend start) :: run.2) := by
  have failedBefore : ∀ {retries : Nat},
      (∀ earlier < retries, calls.Fails firstTarget (start + 1 + earlier)) →
        ∀ earlier < retries + 1, calls.Fails firstTarget (start + earlier) := by
    intro retries later earlier inside
    cases earlier with
    | zero => exact fails
    | succ earlier =>
        rw [Nat.add_comm earlier 1, ← Nat.add_assoc]
        exact later earlier (Nat.lt_of_succ_lt_succ inside)
  cases ends with
  | @answered retries response inside before answer =>
      rw [Nat.add_assoc, Nat.add_comm 1] at answer
      exact .answered (Nat.succ_lt_succ inside) (failedBefore before) answer
  | @exhausted retries error last before failed =>
      rw [Nat.add_assoc, Nat.add_comm 1] at failed
      exact .exhausted (congrArg Nat.succ last) (failedBefore before) failed

/-- Induction over the rounds that are left; as many attempts as selections have
been made before. -/
theorem retryLoop_ends {left : Nat} (rounds : start + (left + 1) = attempts)
    (lastError : Option MzaniError) :
    calls.RoundsEnd firstTarget start (left + 1)
      (calls.retryLoop attempts (List.range' start (left + 1)) start start
        (calls.target firstTarget start) lastError) := by
  induction left generalizing start lastError with
  | zero =>
      cases result : calls.result firstTarget start with
      | ok response =>
          rw [List.range'_succ, round_answered result]
          exact .answered Nat.one_pos (fun _ impossible => nomatch impossible) result
      | error error =>
          rw [List.range'_succ, round_last result rounds]
          exact .exhausted rfl (fun _ impossible => nomatch impossible) result
  | succ left ih =>
      rw [List.range'_succ]
      cases result : calls.result firstTarget start with
      | ok response =>
          rw [round_answered result]
          exact .answered (Nat.succ_pos _) (fun _ impossible => nomatch impossible) result
      | error error =>
          rw [round_next result (by omega)]
          exact (ih (by omega) (some error)).cons ⟨error, result⟩

theorem mostAttempts_pos (maxBackendRetries : U32) : 0 < mostAttempts maxBackendRetries := by
  have positive : 0 < u32Limit - 1 := by decide
  unfold mostAttempts
  omega

theorem runLoop_ends (calls : RetryCalls) (firstTarget : SocketAddr)
    (maxBackendRetries : U32) :
    calls.RoundsEnd firstTarget 0 (mostAttempts maxBackendRetries)
      (calls.runLoop firstTarget maxBackendRetries) := by
  obtain ⟨left, count⟩ := Nat.exists_eq_add_one_of_ne_zero
    (mostAttempts_pos maxBackendRetries).ne'
  have attempts := saturatingSucc_eq_mostAttempts maxBackendRetries
  have ends : calls.RoundsEnd firstTarget 0 (left + 1)
      (calls.retryLoop (saturatingSucc maxBackendRetries) (List.range' 0 (left + 1)) 0 0
        (calls.target firstTarget 0) none) :=
    retryLoop_ends (by omega) none
  rw [runLoop, List.range_eq_range', attempts, count]
  exact ends

/-- The retry loop returns the first response, or the error of the last attempt
that is allowed, and makes no other call than the attempts up to there and one
selection between any two of them. -/
theorem proxyWithRetries_exact (calls : RetryCalls) (firstTarget : SocketAddr)
    (maxBackendRetries : U32) : ∃ last, calls.EndsWith firstTarget maxBackendRetries last := by
  have ends := runLoop_ends calls firstTarget maxBackendRetries
  cases run : calls.runLoop firstTarget maxBackendRetries with
  | mk exit made =>
      rw [run] at ends
      cases ends with
      | @answered retries response inside before answer =>
          simp only [Nat.zero_add] at before answer
          refine ⟨retries, inside, before, ?_, ?_, ?_, ?_⟩
          · rintro ⟨error, failed⟩
            rw [answer] at failed
            cases failed
          · rw [run, answer]
            rfl
          · rw [run]
          · rw [proxyWithRetries, run, answer]
      | @exhausted retries error last before failed =>
          simp only [Nat.zero_add] at before failed
          refine ⟨retries, by omega, before, fun _ => last, ?_, ?_, ?_⟩
          · rw [run, failed]
            rfl
          · rw [run]
          · rw [proxyWithRetries, run, failed]
            rfl

end RetryCalls

/-! ## The loop on a network -/

section

variable {σ : Type} [Read σ] (context : Context) (network : Network σ) (bytes : Bytes)
  (firstTarget : SocketAddr)

/-- The calls that the loop makes on a network. -/
def Context.retryCalls : RetryCalls where
  proxyToBackend attempt target := (context.attempt network bytes attempt target).result
  selectBackend := network.selectBackend

theorem target_retryCalls (attempt : Nat) :
    (context.retryCalls network bytes).target firstTarget attempt =
      network.target firstTarget attempt := by
  induction attempt with
  | zero => rfl
  | succ attempt ih =>
      rw [RetryCalls.target, ih]
      rfl

theorem result_retryCalls (attempt : Nat) :
    (context.retryCalls network bytes).result firstTarget attempt =
      (context.made network bytes firstTarget attempt).result := by
  rw [RetryCalls.result, target_retryCalls]
  rfl

/-- The loop of a context is this one, without its panic. -/
theorem proxyWithRetries_retryCalls :
    (context.retryCalls network bytes).proxyWithRetries firstTarget
        context.maxBackendRetries =
      some (context.proxyWithRetries network bytes firstTarget).1 := by
  have allowed : context.allowed = RetryCalls.mostAttempts context.maxBackendRetries :=
    RetryCalls.saturatingSucc_eq_mostAttempts context.maxBackendRetries
  have fails : ∀ attempt, (context.retryCalls network bytes).Fails firstTarget attempt →
      context.Fails network bytes firstTarget attempt := by
    rintro attempt ⟨error, failed⟩
    exact ⟨error, (result_retryCalls context network bytes firstTarget attempt).symm.trans
      failed⟩
  have ends := RetryCalls.runLoop_ends (context.retryCalls network bytes) firstTarget
    context.maxBackendRetries
  rw [← allowed] at ends
  unfold RetryCalls.proxyWithRetries
  generalize (context.retryCalls network bytes).runLoop firstTarget
    context.maxBackendRetries = run at ends
  cases ends with
  | @answered retries response inside before answer =>
      simp only [Nat.zero_add, result_retryCalls] at before answer
      have served : context.ServedBy network bytes firstTarget retries response :=
        ⟨inside, fun earlier isBefore => fails earlier (before earlier isBefore), answer⟩
      rw [proxyWithRetries_of_served served]
  | @exhausted retries error last before failed =>
      simp only [Nat.zero_add, result_retryCalls] at before failed
      have lastAttempt : context.allowed - 1 = retries := by omega
      have all : ∀ attempt < context.allowed,
          context.Fails network bytes firstTarget attempt := by
        intro attempt inside
        rcases Nat.lt_succ_iff_lt_or_eq.mp (last ▸ inside) with isBefore | rfl
        · exact fails attempt (before attempt isBefore)
        · exact ⟨error, failed⟩
      obtain ⟨attempts, proxied⟩ :=
        proxyWithRetries_error_iff.mpr ⟨all, by rwa [lastAttempt]⟩
      rw [proxied]
      rfl

end

end Mzani
