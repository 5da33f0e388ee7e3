import Mathlib.Algebra.Group.Fin.Basic
import Mathlib.Data.List.AList
import Mzani.Utils.LogRecord

/-!
# Metrics

What a worker reports about a proxied request, and what is added up of it.
-/

namespace Mzani

open Support

inductive RequestOutcome where
  | ok
  | error
  deriving DecidableEq

def RequestOutcome.asStr : RequestOutcome → String
  | .ok => "ok"
  | .error => "error"

/-- `RequestStats`; a duration is in nanoseconds. -/
structure RequestStats where
  reqId : U64
  workerId : Nat
  backend : SocketAddr
  requestLen : Nat
  responseLen : Nat
  duration : Duration
  outcome : RequestOutcome
  statusCode : Option Nat
  deriving DecidableEq

/-- A field that is there only with a value. -/
def LogRecord.fieldIf (record : LogRecord) (key : String) : Option Text → LogRecord
  | none => record
  | some value => record.field key value

def RequestStats.toMetricsRecord (stats : RequestStats) (req : RequestContext) :
    LogRecord :=
  (LogRecord.new .info "metrics_record" .metrics).withRequest req
    |>.field "backend" (formatAddr stats.backend)
    |>.field "req_bytes" (decimal stats.requestLen)
    |>.field "resp_bytes" (decimal stats.responseLen)
    |>.field "duration_ms" (millis stats.duration)
    |>.field "outcome" stats.outcome.asStr.toList
    |>.fieldIf "status" (stats.statusCode.map decimal)

structure BackendMetrics where
  requests : U64
  errors : U64
  deriving DecidableEq

/-- Sums wrap, as in a release build; a build with overflow checks panics
there. -/
structure Metrics where
  totalRequests : U64
  totalBytesProxied : U64
  largestRequestBytes : Nat
  lastRequestDuration : Duration
  totalDuration : Duration
  perBackend : AList fun _ : SocketAddr => BackendMetrics
  poolRejected : U64

namespace Metrics

def default : Metrics where
  totalRequests := 0
  totalBytesProxied := 0
  largestRequestBytes := 0
  lastRequestDuration := 0
  totalDuration := 0
  perBackend := ∅
  poolRejected := 0

/-- The counters of a backend, or new ones. -/
def backend (metrics : Metrics) (addr : SocketAddr) : BackendMetrics :=
  (metrics.perBackend.lookup addr).getD { requests := 0, errors := 0 }

/-- Records metrics for a completed proxied request. -/
def recordRequest (metrics : Metrics) (stats : RequestStats) : Metrics :=
  let entry := metrics.backend stats.backend
  { metrics with
    totalRequests := metrics.totalRequests + 1
    totalBytesProxied := metrics.totalBytesProxied +
      Fin.ofNat u64Limit (stats.requestLen + stats.responseLen)
    totalDuration := metrics.totalDuration + stats.duration
    lastRequestDuration := stats.duration
    largestRequestBytes :=
      if metrics.largestRequestBytes < stats.requestLen then stats.requestLen
      else metrics.largestRequestBytes
    perBackend := metrics.perBackend.insert stats.backend
      { requests := entry.requests + 1
        errors := if stats.outcome = .error then entry.errors + 1 else entry.errors } }

def recordPoolRejected (metrics : Metrics) : Metrics :=
  { metrics with poolRejected := metrics.poolRejected + 1 }

/-- The metrics after a list of requests. -/
def recordAll (metrics : Metrics) (stats : List RequestStats) : Metrics :=
  stats.foldl recordRequest metrics

section

variable (metrics : Metrics) (stats : RequestStats)

@[simp] theorem totalRequests_recordRequest :
    (metrics.recordRequest stats).totalRequests = metrics.totalRequests + 1 := rfl

theorem backend_recordRequest :
    (metrics.recordRequest stats).backend stats.backend =
      { requests := (metrics.backend stats.backend).requests + 1
        errors := if stats.outcome = .error then (metrics.backend stats.backend).errors + 1
          else (metrics.backend stats.backend).errors } := by
  simp [backend, recordRequest]

/-- Other backends are not touched. -/
theorem backend_recordRequest_other {addr : SocketAddr} (different : addr ≠ stats.backend) :
    (metrics.recordRequest stats).backend addr = metrics.backend addr := by
  simp [backend, recordRequest, AList.lookup_insert_ne different]

/-- The requests to a backend in a list of statistics. -/
def requestsTo (addr : SocketAddr) (all : List RequestStats) : Nat :=
  all.countP fun stats => stats.backend = addr

/-- The failed ones. -/
def errorsOf (addr : SocketAddr) (all : List RequestStats) : Nat :=
  all.countP fun stats => stats.backend = addr && stats.outcome = .error

/-- The completed ones. -/
def completedBy (addr : SocketAddr) (all : List RequestStats) : Nat :=
  all.countP fun stats => stats.backend = addr && stats.outcome = .ok

theorem requestsTo_eq (addr : SocketAddr) (all : List RequestStats) :
    requestsTo addr all = completedBy addr all + errorsOf addr all := by
  induction all with
  | nil => rfl
  | cons stats all ih =>
      simp only [requestsTo, completedBy, errorsOf, List.countP_cons] at ih ⊢
      rw [ih]
      cases stats.outcome <;> by_cases here : stats.backend = addr <;> simp [here] <;> omega

theorem ofNat_succ (number : U64) (count : Nat) :
    number + 1 + Fin.ofNat u64Limit count = number + Fin.ofNat u64Limit (count + 1) := by
  apply Fin.ext
  have one : ((1 : U64) : Nat) = 1 := rfl
  simp only [Fin.val_add, Fin.val_ofNat, one, Nat.add_mod_mod, Nat.mod_add_mod]
  congr 1
  omega

theorem ofNat_add (first second : Nat) :
    Fin.ofNat u64Limit (first + second) =
      Fin.ofNat u64Limit first + Fin.ofNat u64Limit second := by
  apply Fin.ext
  simp [Fin.val_add]

theorem add_ofNat_zero (number : U64) : number + Fin.ofNat u64Limit 0 = number :=
  add_zero number

theorem backend_recordAll (addr : SocketAddr) (all : List RequestStats) :
    (metrics.recordAll all).backend addr =
      { requests := (metrics.backend addr).requests +
          Fin.ofNat u64Limit (requestsTo addr all)
        errors := (metrics.backend addr).errors +
          Fin.ofNat u64Limit (errorsOf addr all) } := by
  induction all generalizing metrics with
  | nil => simp [recordAll, requestsTo, errorsOf]
  | cons stats all ih =>
      rw [recordAll, List.foldl_cons, ← recordAll, ih]
      by_cases here : stats.backend = addr
      · subst here
        have more : requestsTo stats.backend (stats :: all) =
            requestsTo stats.backend all + 1 := by simp [requestsTo]
        rw [backend_recordRequest, more, ← ofNat_succ]
        cases outcome : stats.outcome with
        | ok =>
            have same : errorsOf stats.backend (stats :: all) =
                errorsOf stats.backend all := by simp [errorsOf, outcome]
            rw [same]
            rfl
        | error =>
            have failed : errorsOf stats.backend (stats :: all) =
                errorsOf stats.backend all + 1 := by simp [errorsOf, outcome]
            rw [failed, ← ofNat_succ]
            rfl
      · rw [backend_recordRequest_other metrics stats (Ne.symm here)]
        simp [requestsTo, errorsOf, here]

/-- Requests without errors, as the counters give them. -/
theorem requests_sub_errors (addr : SocketAddr) (all : List RequestStats) :
    ((Metrics.default.recordAll all).backend addr).requests -
        ((Metrics.default.recordAll all).backend addr).errors =
      Fin.ofNat u64Limit (completedBy addr all) := by
  rw [backend_recordAll, requestsTo_eq]
  dsimp only
  have empty : Metrics.default.backend addr = { requests := 0, errors := 0 } := by
    simp [backend, default]
  rw [empty, ofNat_add]
  simp

end

end Metrics

end Mzani
