import Mzani.Balancer.ServerProbes
import Mzani.Balancer.ServerRequests

/-!
# The legacy entry point

`create_server` takes a configuration apart into what a context remembers and
builds a balancer from that.  The health configuration, the sizes of the pool
and the number of retries are the default ones, whatever was configured, and
each of them shows in some run.
-/

namespace Mzani

open Support

variable {Stream : Type}

/-- `create_server`, up to its accept loop. -/
def createServer (context : RoutedContext) (openLog : String → MzaniResult Unit) :
    MzaniResult (Server Stream) :=
  Server.build
    { listen := context.socketAddr
      backends := context.targetServers
      logDir := context.logDir
      limits := context.limits
      timeouts := context.timeouts }
    openLog

/-- `Context::new_with_options` -/
def RoutedContext.newWithOptions (serverList : Vec SocketAddr) (listen : SocketAddr)
    (logDir : Option String) : MzaniResult RoutedContext :=
  if serverList.val = [] then .error .emptyServerList
  else
    let config : BalancerConfig :=
      { listen, backends := serverList, logDir := logDir.getD "logs" }
    RoutedContext.fromConfig config (.new config.backends)

/-- The calls of the legacy entry point, as its documentation has them. -/
def legacyServer (config : BalancerConfig) (openLog : String → MzaniResult Unit) :
    MzaniResult (Server Stream) := do
  let context ← RoutedContext.fromConfig config (.new config.backends)
  createServer context openLog

/-- Both fail with the same error, or both run and no sequence of events tells
them apart. -/
def SameRuns (σ τ : Type) [DecidableEq Stream] [Read σ] [Read τ]
    (snapshotRecord : Metrics → LogRecord) : (first second : MzaniResult (Server Stream)) → Prop
  | .error error, .error other => error = other
  | .ok first, .ok second => Server.Alike σ τ snapshotRecord first second
  | _, _ => False

/-- The legacy entry point runs the configured balancer. -/
def RunsConfigured (config : BalancerConfig) : Prop :=
  ∀ (Stream σ τ : Type) [DecidableEq Stream] [Read σ] [Read τ]
    (snapshotRecord : Metrics → LogRecord) (openLog : String → MzaniResult Unit),
    SameRuns σ τ snapshotRecord (legacyServer config openLog : MzaniResult (Server Stream))
      (Server.build config openLog)

namespace BalancerConfig

/-- What is left of a configuration on the way through a context. -/
def remembered (config : BalancerConfig) : BalancerConfig where
  listen := config.listen
  backends := config.backends
  logDir := config.logDir
  limits := config.limits
  timeouts := config.timeouts

variable {config : BalancerConfig}

theorem validate_remembered (valid : config.validate = .ok ()) :
    config.remembered.validate = .ok () := by
  obtain ⟨backends, limits, _, _⟩ := (validate_eq_ok_iff config).mp valid
  have health : ({} : HealthConfig).validate = .ok () := by decide
  have pool : ({} : PoolConfig).validate = .ok () := by decide
  exact (validate_eq_ok_iff config.remembered).mpr ⟨backends, limits, health, pool⟩

end BalancerConfig

variable {config : BalancerConfig}

theorem legacyServer_eq (valid : config.validate = .ok ())
    (openLog : String → MzaniResult Unit) :
    (legacyServer config openLog : MzaniResult (Server Stream)) =
      Server.build config.remembered openLog := by
  have targets : RoutedContext.targetServers
      { socketAddr := config.listen
        logDir := config.logDir
        limits := config.limits
        timeouts := config.timeouts
        maxBackendRetries := config.maxBackendRetries
        routing := .new config.backends } = config.backends :=
    Subtype.ext (BackendSet.addresses_new config.backends)
  unfold legacyServer RoutedContext.fromConfig
  rw [valid]
  change createServer _ openLog = _
  unfold createServer
  dsimp only
  rw [targets]
  rfl

/-- A context with options forgets nothing: what `create_server` makes of it is the
default balancer with these options. -/
theorem createServer_newWithOptions (serverList : Vec SocketAddr) (listen : SocketAddr)
    (logDir : Option String) (openLog : String → MzaniResult Unit) :
    ((RoutedContext.newWithOptions serverList listen logDir).bind (createServer · openLog) :
        MzaniResult (Server Stream)) =
      Server.build { listen, backends := serverList, logDir := logDir.getD "logs" } openLog := by
  let config : BalancerConfig := { listen, backends := serverList, logDir := logDir.getD "logs" }
  by_cases empty : serverList.val = []
  · have invalid : config.validate = .error .emptyServerList := if_pos empty
    rw [RoutedContext.newWithOptions, if_pos empty]
    exact (Server.build_of_invalid invalid openLog).symm
  · have valid : config.validate = .ok () := (validate_default_iff serverList).mpr empty
    rw [RoutedContext.newWithOptions, if_neg empty]
    exact legacyServer_eq valid openLog

/-! ## What tells the two balancers apart -/

section

variable {snapshotRecord : Metrics → LogRecord} {legacy server : Server Nat}

/-- The monitors have the same configuration. -/
theorem health_of_alike (alike : Server.Alike Source Source snapshotRecord legacy server)
    (valid : config.validate = .ok ()) (startedLegacy : Server.Started config.remembered legacy)
    (started : Server.Started config server) : config.health = {} := by
  obtain ⟨backends, _, health, _⟩ := (BalancerConfig.validate_eq_ok_iff config).mp valid
  obtain ⟨addr, tail, listed⟩ := List.exists_cons_of_ne_nil backends
  let entry : BackendEntry :=
    { addr, healthy := true, consecutiveFailures := 0, consecutiveSuccesses := 0 }
  have watching : ∀ {server : Server Nat} {health : HealthConfig},
      server.backends = .new config.backends → server.health = health →
        server.monitor = .looping →
          Server.Watching addr tail health (some entry) .looping server := by
    intro server health sameBackends sameHealth looping
    constructor
    · rw [sameBackends, BackendSet.addresses_new, listed]
    · exact sameHealth
    · rw [sameBackends]
      simp [BackendSet.entryFor, BackendSet.new, listed, entry]
    · exact looping
  have default : ({} : HealthConfig).validate = .ok () := by decide
  exact (alike.healthConfig default health
    (watching startedLegacy.backends startedLegacy.health startedLegacy.monitor)
    (watching started.backends started.health started.monitor) rfl rfl).symm

theorem pool_of_alike (alike : Server.Alike Source Source snapshotRecord legacy server)
    (valid : config.validate = .ok ()) (startedLegacy : Server.Started config.remembered legacy)
    (started : Server.Started config server) : config.pool = {} := by
  have back : Server.Alike Source Source snapshotRecord server legacy :=
    Transducer.Alike.symm alike
  have validLegacy := BalancerConfig.validate_remembered valid
  have workers : ({} : PoolConfig).workers = config.pool.workers :=
    alike.workers startedLegacy started
  have ten : config.pool.workers.val = 10 := congrArg Fin.val workers.symm
  have staffed : ({} : PoolConfig).workers ≠ 0 := by decide
  have staffedToo : config.pool.workers ≠ 0 := by
    rw [← workers]
    exact staffed
  have noWrap : ({} : PoolConfig).workers.val * ({} : PoolConfig).perWorkerQueue.val + 1 <
      usizeLimit := by decide
  have most : config.pool.perWorkerQueue ≤ 7 :=
    alike.perWorkerQueue_le startedLegacy started staffed workers.symm noWrap
  have least : 7 ≤ config.pool.perWorkerQueue := by
    apply back.perWorkerQueue_le started startedLegacy staffedToo workers
    have few : config.pool.perWorkerQueue.val ≤ 7 := most
    have limit : usizeLimit = 2 ^ 64 := rfl
    rw [ten]
    omega
  have queue : config.pool.perWorkerQueue = 7 := le_antisymm most least
  have logs : config.pool.logChannelCapacity = 1024 :=
    le_antisymm (back.logChannelCapacity_le started startedLegacy)
      (alike.logChannelCapacity_le startedLegacy started)
  have stats : config.pool.metricsChannelCapacity = 1024 :=
    le_antisymm (back.metricsChannelCapacity_le started startedLegacy valid)
      (alike.metricsChannelCapacity_le startedLegacy started validLegacy)
  have fields : config.pool =
      ⟨config.pool.workers, config.pool.perWorkerQueue, config.pool.logChannelCapacity,
        config.pool.metricsChannelCapacity⟩ := rfl
  rw [fields, ← workers, queue, logs, stats]

theorem retries_of_alike (alike : Server.Alike Source Source snapshotRecord legacy server)
    (valid : config.validate = .ok ()) (startedLegacy : Server.Started config.remembered legacy)
    (started : Server.Started config server) : config.maxBackendRetries = 1 := by
  have validLegacy := BalancerConfig.validate_remembered valid
  have attempts : saturatingSucc 1 = saturatingSucc config.maxBackendRetries :=
    alike.attempts startedLegacy started validLegacy valid
  have two : (saturatingSucc config.maxBackendRetries).val = 2 :=
    congrArg Fin.val attempts.symm
  unfold saturatingSucc at two
  split at two
  case isTrue fits => exact Fin.ext (Nat.succ_injective two)
  case isFalse large =>
      have limit : u32Limit = 2 ^ 32 := rfl
      omega

end

/-! ## Exactly the default configuration of these parts -/

/-- A valid configuration that the legacy entry point runs as it is has nothing
that the context forgets. -/
theorem RunsConfigured.default (runs : RunsConfigured config) (valid : config.validate = .ok ()) :
    config.health = {} ∧ config.pool = {} ∧ config.maxBackendRetries = 1 := by
  let openLog (_ : String) : MzaniResult Unit := .ok ()
  obtain ⟨legacy, builtLegacy⟩ : ∃ legacy : Server Nat,
      Server.build config.remembered openLog = .ok legacy :=
    Server.exists_build (BalancerConfig.validate_remembered valid) rfl
  obtain ⟨server, built⟩ : ∃ server : Server Nat, Server.build config openLog = .ok server :=
    Server.exists_build valid rfl
  have startedLegacy := Server.started_of_build builtLegacy
  have started := Server.started_of_build built
  let snapshotRecord (_ : Metrics) : LogRecord := poolSaturated
  have alike : Server.Alike Source Source snapshotRecord legacy server := by
    have same := runs Nat Source Source snapshotRecord openLog
    rw [legacyServer_eq valid, builtLegacy, built] at same
    exact same
  refine ⟨?_, ?_, ?_⟩
  · exact health_of_alike alike valid startedLegacy started
  · exact pool_of_alike alike valid startedLegacy started
  · exact retries_of_alike alike valid startedLegacy started

/-- With nothing forgotten the legacy entry point builds the same balancer. -/
theorem runsConfigured_of_default (valid : config.validate = .ok ())
    (health : config.health = {}) (pool : config.pool = {})
    (retries : config.maxBackendRetries = 1) : RunsConfigured config := by
  have same : config.remembered = config := by
    have fields : config =
        ⟨config.listen, config.backends, config.logDir, config.limits, config.timeouts,
          config.health, config.pool, config.maxBackendRetries⟩ := rfl
    rw [fields, health, pool, retries]
    rfl
  intro Stream σ τ _ _ _ snapshotRecord openLog
  rw [legacyServer_eq valid, same]
  cases (Server.build config openLog : MzaniResult (Server Stream)) with
  | error error => exact rfl
  | ok server => exact Transducer.Alike.refl server

/-- The legacy entry point runs a valid configuration exactly if the health
configuration, the pool and the number of retries are the default ones. -/
theorem runsConfigured_iff (config : BalancerConfig) (valid : config.validate = .ok ()) :
    RunsConfigured config ↔
      config.health = {} ∧ config.pool = {} ∧ config.maxBackendRetries = 1 := by
  constructor
  · intro runs
    exact runs.default valid
  · rintro ⟨health, pool, retries⟩
    exact runsConfigured_of_default valid health pool retries

theorem localhost_length : [SocketAddr.v4 localhost 9000].length < 2 ^ 63 := by
  decide

/-- One backend, and no retry after it. -/
def oneAttempt : BalancerConfig :=
  { backends := ⟨[.v4 localhost 9000], localhost_length⟩, maxBackendRetries := 0 }

/-- One backend, and the default configuration otherwise. -/
def oneBackend : BalancerConfig :=
  { backends := ⟨[.v4 localhost 9000], localhost_length⟩ }

/-- The documented default configuration is run as it is. -/
theorem runsConfigured_oneBackend : RunsConfigured oneBackend :=
  (runsConfigured_iff oneBackend (by decide)).mpr ⟨rfl, rfl, rfl⟩

/-- A balancer without retries gets one. -/
theorem oneAttempt_retries : oneAttempt.validate = .ok () ∧ ¬RunsConfigured oneAttempt := by
  refine ⟨by decide, fun runs => ?_⟩
  have retries := (runs.default (by decide)).2.2
  revert retries
  decide

end Mzani
