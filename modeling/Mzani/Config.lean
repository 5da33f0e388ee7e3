import Mathlib.Algebra.Order.Ring.Nat
import Mzani.Error

/-!
# Configuration

Configuration types, their default values and their validation.  The widths
of the machine integers are those of a 64-bit target.
-/

namespace Mzani

/-- Number of values of `usize`. -/
def usizeLimit : Nat := 2 ^ 64

abbrev Usize : Type := Fin usizeLimit

instance : NeZero usizeLimit := ⟨by decide⟩

/-- Number of values of `u64`. -/
def u64Limit : Nat := 2 ^ 64

abbrev U64 : Type := Fin u64Limit

instance : NeZero u64Limit := ⟨by decide⟩

/-- Number of values of `u32`. -/
def u32Limit : Nat := 2 ^ 32

abbrev U32 : Type := Fin u32Limit

instance : NeZero u32Limit := ⟨by decide⟩

/-- Number of values of `u16`. -/
def u16Limit : Nat := 2 ^ 16

/-- One more, or the largest value again. -/
def saturatingSucc (count : U32) : U32 :=
  if h : count.val + 1 < u32Limit then ⟨count.val + 1, h⟩ else count

theorem one_le_saturatingSucc (count : U32) : 1 ≤ saturatingSucc count := by
  unfold saturatingSucc
  split
  · exact Nat.le_add_left 1 count.val
  · have large : u32Limit = 2 ^ 32 := rfl
    rw [Fin.le_def]
    change 1 ≤ count.val
    omega

/-- `Vec<T>` and `Arc<[T]>`: an allocation has at most `isize::MAX` bytes. -/
abbrev Vec (α : Type) : Type := { items : List α // items.length < 2 ^ 63 }

/-- `std::time::Duration`, in nanoseconds. -/
abbrev Duration : Type := Nat

def Duration.fromSecs (seconds : Nat) : Duration := seconds * 1000000000

def Duration.fromMillis (milliseconds : Nat) : Duration :=
  milliseconds * 1000000

/-- `std::net::SocketAddr` -/
inductive SocketAddr where
  | v4 (ip : BitVec 32) (port : BitVec 16)
  | v6 (ip : BitVec 128) (port : BitVec 16) (flowinfo scopeId : BitVec 32)
  deriving DecidableEq, Repr

structure Limits where
  maxHeaderBytes : Usize := 64 * 1024
  maxBodyBytes : Usize := 16 * 1024 * 1024
  maxResponseBytes : Usize := 16 * 1024 * 1024
  deriving DecidableEq

def Limits.validate (limits : Limits) : MzaniResult Unit :=
  if limits.maxHeaderBytes = 0 ∨ limits.maxBodyBytes = 0 ∨
      limits.maxResponseBytes = 0 then
    .error (.parseError "limits must be greater than zero")
  else .ok ()

/-- The largest limits. -/
def Limits.largest : Limits :=
  { maxHeaderBytes := Fin.last _, maxBodyBytes := Fin.last _, maxResponseBytes := Fin.last _ }

structure Timeouts where
  read : Duration := .fromSecs 30
  slowRequestWarn : Duration := .fromMillis 500
  acceptRead : Duration := .fromSecs 30
  deriving DecidableEq

structure HealthConfig where
  interval : Duration := .fromSecs 5
  connectTimeout : Duration := .fromSecs 2
  failureThreshold : U32 := 2
  recoveryThreshold : U32 := 1
  deriving DecidableEq

def HealthConfig.validate (health : HealthConfig) : MzaniResult Unit :=
  if health.interval = 0 ∨ health.connectTimeout = 0 then
    .error (.parseError "health intervals must be non-zero")
  else if health.failureThreshold = 0 ∨ health.recoveryThreshold = 0 then
    .error (.parseError "health thresholds must be at least 1")
  else .ok ()

structure PoolConfig where
  workers : Usize := 10
  perWorkerQueue : Usize := 7
  logChannelCapacity : Usize := 1024
  metricsChannelCapacity : Usize := 1024
  deriving DecidableEq

def PoolConfig.validate (pool : PoolConfig) : MzaniResult Unit :=
  if pool.workers = 0 ∨ pool.perWorkerQueue = 0 then
    .error (.parseError "workers and per_worker_queue must be at least 1")
  else if pool.logChannelCapacity = 0 ∨ pool.metricsChannelCapacity = 0 then
    .error (.parseError "channel capacities must be at least 1")
  else .ok ()

/-- `127.0.0.1` -/
def localhost : BitVec 32 := 0x7F000001

structure BalancerConfig where
  listen : SocketAddr := .v4 localhost 8080
  backends : Vec SocketAddr := ⟨[], by decide⟩
  logDir : String := "logs"
  limits : Limits := {}
  timeouts : Timeouts := {}
  health : HealthConfig := {}
  pool : PoolConfig := {}
  maxBackendRetries : U32 := 1
  deriving DecidableEq

def BalancerConfig.validate (config : BalancerConfig) : MzaniResult Unit :=
  if config.backends.val = [] then .error .emptyServerList
  else do
    config.limits.validate
    config.health.validate
    config.pool.validate

theorem PoolConfig.validate_eq_ok_iff (pool : PoolConfig) :
    pool.validate = .ok () ↔
      pool.workers ≠ 0 ∧ pool.perWorkerQueue ≠ 0 ∧
        pool.logChannelCapacity ≠ 0 ∧ pool.metricsChannelCapacity ≠ 0 := by
  unfold PoolConfig.validate
  split
  · grind
  · split
    · grind
    · grind

theorem HealthConfig.validate_eq_ok_iff (health : HealthConfig) :
    health.validate = .ok () ↔
      health.interval ≠ 0 ∧ health.connectTimeout ≠ 0 ∧
        health.failureThreshold ≠ 0 ∧ health.recoveryThreshold ≠ 0 := by
  unfold HealthConfig.validate
  split
  · grind
  · split
    · grind
    · grind

private theorem andThen_eq_ok_iff {first second : MzaniResult Unit} :
    (first >>= fun _ => second) = .ok () ↔ first = .ok () ∧ second = .ok () := by
  cases first with
  | error error => simp [bind, Except.bind]
  | ok value => simp [bind, Except.bind]

theorem BalancerConfig.validate_eq_ok_iff (config : BalancerConfig) :
    config.validate = .ok () ↔
      config.backends.val ≠ [] ∧ config.limits.validate = .ok () ∧
        config.health.validate = .ok () ∧ config.pool.validate = .ok () := by
  by_cases empty : config.backends.val = []
  · simp [BalancerConfig.validate, empty]
  · simp [BalancerConfig.validate, empty, andThen_eq_ok_iff]

/-- Every default configuration passes its own check; the default balancer
configuration lacks only its backends. -/
theorem validate_default_iff (backends : Vec SocketAddr) :
    ({ backends } : BalancerConfig).validate = .ok () ↔ backends.val ≠ [] := by
  have limits : ({} : Limits).validate = .ok () := by decide
  have health : ({} : HealthConfig).validate = .ok () := by decide
  have pool : ({} : PoolConfig).validate = .ok () := by decide
  rw [BalancerConfig.validate_eq_ok_iff]
  exact and_iff_left ⟨limits, health, pool⟩

end Mzani
