import Mzani.Balancer
import Mzani.State.ConnectionTask
import Mzani.State.EmitLog
import Mzani.State.LogLines
import Mzani.Support.Transducer

/-!
# The running balancer

What `Balancer::build` starts, with everything that its configuration reaches:
the accept loop, the workers with their queues and their calls, the backends
that the calls and the probes share, the channels with the threads behind them,
and the health monitor.  A run never shuts down: `create_server` keeps the
balancer to itself and stays in the accept loop.
-/

namespace Mzani

open Support

/-- `Context` as `from_config` makes it; `routing` is the set behind its
strategy. -/
structure RoutedContext extends WorkerContext where
  logDir : String
  routing : BackendSet

namespace RoutedContext

def fromConfig (config : BalancerConfig) (backends : BackendSet) :
    MzaniResult RoutedContext := do
  config.validate
  .ok
    { socketAddr := config.listen
      logDir := config.logDir
      limits := config.limits
      timeouts := config.timeouts
      maxBackendRetries := config.maxBackendRetries
      routing := backends }

def targetServers (context : RoutedContext) : Vec SocketAddr :=
  ⟨context.routing.addresses, by
    simpa [BackendSet.addresses] using context.routing.entries.property⟩

end RoutedContext

/-- How far `health_loop` is: before the addresses of a round, before the
probes of the rest of a round, and in `sleep_interruptible`. -/
inductive Monitoring where
  | looping
  | scanning (addrs : List SocketAddr)
  | sleeping (remaining : Duration)
  deriving DecidableEq

/-- `config` is that of the accept loop, `health` the copy of the monitor.
`tasks` are the calls of `handle_connection` by worker. -/
structure Server (Stream : Type) where
  config : BalancerConfig
  context : WorkerContext
  backends : BackendSet
  pool : ThreadPool Stream
  tasks : Nat → Option Task
  observability : Observability
  health : HealthConfig
  monitor : Monitoring

/-- What happens next: a connection is accepted, or accepting fails; the call of
`submit` goes on; a worker goes on, or begins a call with what it will meet; the
aggregator goes on and finds its interval over or not; the log writer goes on;
the monitor goes on, where a backend connects within some timeouts only. -/
inductive Event (Stream σ τ : Type) where
  | accept (stream : Stream) (setReadTimeout : Duration → Except IoError Unit)
  | acceptError (error : IoError)
  | submit
  | work (worker : Nat)
  | call (worker : Nat) (meets : Meets σ τ)
  | aggregate (elapsed : Bool)
  | write
  | monitor (connects : Duration → Bool)

/-- What a step shows: an answer of the balancer's own, an event of the accept
loop, what a call does or is told, the outcome of a probe with the records of
the monitor, a pause, a record of the aggregator, and a record that is written
to the log. -/
inductive Output (Stream : Type) where
  | quiet
  | answered (stream : Stream) (bytes : Bytes)
  | logged (record : LogRecord)
  | performed (effect : Effect)
  | selected (result : MzaniResult SocketAddr)
  | returned (result : MzaniResult Unit)
  | probed (probe : Probe) (records : List LogRecord)
  | slept (pause : Duration)
  | reported (record : LogRecord)
  | wrote (record : LogRecord)

namespace Server

variable {Stream : Type}

/-- `Balancer::build`; `openLog` opens the log file in a directory. -/
def build (config : BalancerConfig) (openLog : String → MzaniResult Unit) :
    MzaniResult (Server Stream) :=
  match valid : config.validate with
  | .error error => .error error
  | .ok () =>
      let backends := BackendSet.new config.backends
      match RoutedContext.fromConfig config backends with
      | .error error => .error error
      | .ok context =>
          match ThreadPool.new config.pool false (openLog context.logDir) with
          | .error error => .error error
          | .ok pool =>
              let observability := Observability.start config.pool
                ((BalancerConfig.validate_eq_ok_iff config).mp valid).2.2.2
                context.socketAddr context.targetServers.val 0
              .ok
                { config := config
                  context := context.toWorkerContext
                  backends := backends
                  pool := pool
                  tasks := fun _ => none
                  -- the sink of the monitor has a sender of its own
                  observability :=
                    { observability with log := observability.log.cloneSender }
                  health := config.health
                  monitor := .looping }

/-- A record of the accept loop. -/
def logAccept (server : Server Stream) (entry : LogEntry) : Server Stream × Output Stream :=
  ({ server with observability := server.observability.emitLog entry.record },
    .logged entry.record)

/-- `accept_connection`, up to the call of `submit`. -/
def accept [DecidableEq Stream] (server : Server Stream) (stream : Stream)
    (setReadTimeout : Duration → Except IoError Unit) :
    Option (Server Stream × Output Stream) :=
  if server.pool.calls.length ≠ 0 ∨ stream ∈ server.pool.submitted then none
  else
    match setReadTimeout server.config.timeouts.acceptRead with
    | .error error => some (server.logAccept (.acceptReadTimeoutSetFailed error))
    | .ok () =>
        if server.pool.shuttingDown = true then
          some (server, .answered stream (serviceUnavailable "shutting down"))
        else (server.pool.enterSubmit stream).map fun pool => ({ server with pool }, .quiet)

/-- What `accept_connection` does with a stream that `submit` gives back. -/
def reject (server : Server Stream) (stream : Stream) :
    MzaniError → Server Stream × Output Stream
  | .poolFull =>
      let observability := server.observability
      let counted :=
        { observability with metrics := observability.metrics.recordPoolRejected }
      ({ server with observability := counted.emitLog poolSaturated },
        .answered stream (serviceUnavailable "worker queue full"))
  | .shutdownInProgress => (server, .answered stream (serviceUnavailable "shutting down"))
  | error => server.logAccept (.poolSubmitError error)

/-- The call of `submit` goes on. -/
def submit (server : Server Stream) : Option (Server Stream × Output Stream) :=
  match server.pool.advance 0 with
  | none => none
  | some pool =>
      match pool.returned.drop server.pool.returned.length with
      | [] => some ({ server with pool }, .quiet)
      | (stream, error) :: _ => some ({ server with pool }.reject stream error)

def setTask (server : Server Stream) (worker : Nat) (task : Option Task) : Server Stream :=
  { server with tasks := Function.update server.tasks worker task }

/-- What an effect does inside the balancer. -/
def apply (server : Server Stream) : Effect → Server Stream
  | .emitLog record =>
      { server with observability := server.observability.emitLog record }
  | .recordMetrics stats =>
      { server with observability := server.observability.recordMetrics stats }
  | _ => server

/-- A worker goes on with its call. -/
def goOn (server : Server Stream) (worker : Nat) :
    Task → Option (Server Stream × Output Stream)
  | .done result =>
      (server.pool.work worker).map fun pool =>
        ({ server with pool }.setTask worker none, .returned result)
  | .perform effect rest =>
      some ((server.apply effect).setTask worker (some rest), .performed effect)
  | .select rest =>
      let (result, backends) := server.backends.selectNext
      some ({ server with backends }.setTask worker (some (rest result)), .selected result)

/-- The answer that a worker gives itself, if it is about to give one. -/
def refusal (pool : ThreadPool Stream) (worker : Nat) : Output Stream :=
  match pool.lanes[worker]? with
  | some { worker := .refusing stream, .. } =>
      .answered stream (serviceUnavailable "shutting down")
  | _ => .quiet

/-- The worker calls `handle_connection` next. -/
def calls (pool : ThreadPool Stream) (worker : Nat) : Bool :=
  match pool.lanes[worker]? with
  | some { worker := .numbering _, .. } => true
  | _ => false

/-- A worker goes on with its call, or in its loop. -/
def work (server : Server Stream) (worker : Nat) : Option (Server Stream × Output Stream) :=
  match server.tasks worker with
  | some task => server.goOn worker task
  | none =>
      if calls server.pool worker = true then none
      else
        (server.pool.work worker).map fun pool =>
          ({ server with pool }, refusal server.pool worker)

/-- What the aggregator sends next. -/
def report (snapshotRecord : Metrics → LogRecord) (state : Observability) : Output Stream :=
  match state.aggregator with
  | .reporting stats _ => .reported (stats.toMetricsRecord ⟨stats.reqId, stats.workerId⟩)
  | .snapshotting => .reported (snapshotRecord state.metrics)
  | _ => .quiet

/-- What the log writer takes next. -/
def written (state : Observability) : Output Stream :=
  match state.log.queue with
  | [] => .quiet
  | record :: _ => .wrote record

/-- A step of `health_loop`; the whole body of its inner loop is one step. -/
def watch (server : Server Stream) (connects : Duration → Bool) :
    Server Stream × Output Stream :=
  match server.monitor with
  | .looping => ({ server with monitor := .scanning server.backends.addresses }, .quiet)
  | .scanning [] => ({ server with monitor := .sleeping server.health.interval }, .quiet)
  | .scanning (addr :: addrs) =>
      let probe : Probe := { addr, ok := connects server.health.connectTimeout }
      let (backends, emitted) := server.backends.probeBackend server.health probe
      let records := emitted.map (·.2)
      ({ server with
          backends
          monitor := .scanning addrs
          observability := records.foldl (·.send .sink ·) server.observability },
        .probed probe records)
  | .sleeping remaining =>
      if remaining = 0 then ({ server with monitor := .looping }, .quiet)
      else
        let pause := min remaining Balancer.slice
        ({ server with monitor := .sleeping (remaining - pause) }, .slept pause)

section

variable {σ τ : Type} [DecidableEq Stream] [Read σ] [Read τ]
  (snapshotRecord : Metrics → LogRecord)

/-- A worker begins a call of `handle_connection`. -/
def call (server : Server Stream) (worker : Nat) (meets : Meets σ τ) :
    Option (Server Stream × Output Stream) :=
  if calls server.pool worker = true then
    let req : RequestContext := { reqId := server.pool.nextReqId, workerId := worker }
    (server.pool.work worker).map fun pool =>
      ({ server with pool }.setTask worker (some (server.context.handleTask req meets)),
        .quiet)
  else none

def step (server : Server Stream) :
    Event Stream σ τ → Option (Server Stream × Output Stream)
  | .accept stream setReadTimeout => server.accept stream setReadTimeout
  | .acceptError error =>
      if server.pool.calls.length = 0 then
        some (server.logAccept (.acceptError error server.config.listen))
      else none
  | .submit => server.submit
  | .work worker => server.work worker
  | .call worker meets => server.call worker meets
  | .aggregate elapsed =>
      (server.observability.aggregate snapshotRecord elapsed).map fun observability =>
        ({ server with observability }, report snapshotRecord server.observability)
  | .write =>
      server.observability.write.map fun observability =>
        ({ server with observability }, written server.observability)
  | .monitor connects => some (server.watch connects)

/-- The machine; `snapshot_record` formats floating-point numbers and is a
parameter. -/
def machine : Transducer (Server Stream) (Event Stream σ τ) (Output Stream) where
  step := step snapshotRecord

variable (σ τ)

/-- No sequence of events tells the servers apart. -/
def Alike (left right : Server Stream) : Prop :=
  (machine snapshotRecord : Transducer _ (Event Stream σ τ) _).Alike left right

end

/-! ## The start -/

/-- The server before its first step; the first record is queued. -/
structure Started (config : BalancerConfig) (server : Server Stream) : Prop where
  context : server.context =
    { limits := config.limits
      timeouts := config.timeouts
      maxBackendRetries := config.maxBackendRetries
      socketAddr := config.listen }
  backends : server.backends = .new config.backends
  pool : ∃ positive, server.pool = .spawn config.pool positive false
  tasks : server.tasks = fun _ => none
  health : server.health = config.health
  monitor : server.monitor = .looping
  aggregator : server.observability.aggregator = .receiving
  log : server.observability.log.Open config.pool.logChannelCapacity.val
    [serverStart config.listen config.backends.val config.pool.workers.val]
  stats : server.observability.stats.Open config.pool.metricsChannelCapacity.val []
  config : server.config = config

/-- The record of the start is queued. -/
theorem open_start {config : PoolConfig} (valid : config.validate = .ok ())
    (listen : SocketAddr) (backends : List SocketAddr) (threads : Nat) :
    (Observability.start config valid listen backends threads).log.Open
        config.logChannelCapacity.val [serverStart listen backends config.workers.val] ∧
      (Observability.start config valid listen backends threads).stats.Open
        config.metricsChannelCapacity.val [] := by
  obtain ⟨logPositive, statsPositive⟩ := channels_positive valid
  obtain ⟨log, sent, opened⟩ :=
    (Channel.open_sync logPositive).cloneSender.cloneSender.trySend logPositive
      (serverStart listen backends config.workers.val)
  have sending : (Observability.spawn config valid threads).log.trySend
      (serverStart listen backends config.workers.val) = .sent log := sent
  constructor
  · rw [Observability.start, Observability.send, sending]
    exact opened
  · rw [Observability.start, (Observability.sends_send _ _ _).stats]
    exact (Channel.open_sync statsPositive).cloneSender

theorem build_of_invalid {config : BalancerConfig} {error : MzaniError}
    (invalid : config.validate = .error error) (openLog : String → MzaniResult Unit) :
    (build config openLog : MzaniResult (Server Stream)) = .error error := by
  unfold build
  split
  case h_1 other found =>
      rw [Except.error.inj (invalid.symm.trans found)]
  case h_2 valid =>
      rw [invalid] at valid
      cases valid

/-- A valid configuration starts if its log file opens. -/
theorem exists_build {config : BalancerConfig} {openLog : String → MzaniResult Unit}
    (valid : config.validate = .ok ()) (opens : openLog config.logDir = .ok ()) :
    ∃ server : Server Stream, build config openLog = .ok server := by
  have poolValid := ((BalancerConfig.validate_eq_ok_iff config).mp valid).2.2.2
  have created : ∃ pool : ThreadPool Stream,
      ThreadPool.new config.pool false (openLog config.logDir) = .ok pool := by
    unfold ThreadPool.new
    split
    case h_1 error invalid =>
        rw [poolValid] at invalid
        cases invalid
    case h_2 =>
        rw [opens]
        exact ⟨_, rfl⟩
  obtain ⟨pool, created⟩ := created
  unfold build
  split
  case h_1 error invalid =>
      rw [valid] at invalid
      cases invalid
  case h_2 =>
      simp only [RoutedContext.fromConfig, valid]
      dsimp only [bind, Except.bind]
      split
      case h_1 error refused =>
          rw [created] at refused
          cases refused
      case h_2 => exact ⟨_, rfl⟩

theorem validate_of_build {config : BalancerConfig} {openLog : String → MzaniResult Unit}
    {server : Server Stream} (built : build config openLog = .ok server) :
    config.validate = .ok () := by
  unfold build at built
  split at built
  · cases built
  case h_2 valid => exact valid

theorem started_of_build {config : BalancerConfig} {openLog : String → MzaniResult Unit}
    {server : Server Stream} (built : build config openLog = .ok server) :
    Started config server := by
  unfold build at built
  split at built
  · cases built
  case h_2 valid =>
      have poolValid := ((BalancerConfig.validate_eq_ok_iff config).mp valid).2.2.2
      have targets : ((BackendSet.new config.backends).addresses) = config.backends.val :=
        BackendSet.addresses_new config.backends
      obtain ⟨log, stats⟩ :=
        open_start poolValid config.listen (BackendSet.new config.backends).addresses 0
      have aggregator := (Observability.sends_send (Observability.spawn config.pool poolValid 0)
        .sink (serverStart config.listen (BackendSet.new config.backends).addresses
          config.pool.workers.val)).aggregator
      simp only [RoutedContext.fromConfig, valid] at built
      dsimp only [bind, Except.bind] at built
      split at built
      · cases built
      case h_2 pool created =>
          cases built
          constructor
          · rfl
          · rfl
          · exact ThreadPool.new_ok created
          · rfl
          · rfl
          · rfl
          · exact aggregator
          · rw [← targets]
            exact log.cloneSender
          · exact stats
          · rfl

/-! ## The parts of the server -/

theorem tasks_setTask_self (server : Server Stream) (worker : Nat) (task : Option Task) :
    (server.setTask worker task).tasks worker = task :=
  Function.update_self worker _ _

/-- An effect reaches the channels only. -/
theorem apply_eq (server : Server Stream) (effect : Effect) :
    server.apply effect =
      { server with observability := (server.apply effect).observability } := by
  cases effect <;> rfl

/-- The thresholds are those of the monitor. -/
def Configured (health : HealthConfig) : BackendSet.Operation → Prop
  | .success _ threshold => threshold = health.recoveryThreshold
  | .failure _ threshold => threshold = health.failureThreshold
  | .select => True

/-- The pool takes steps of the pool, the backends take operations with the
configured thresholds, and the configuration and the channels stay. -/
structure Evolves [DecidableEq Stream] (server next : Server Stream) : Prop where
  config : next.config = server.config
  context : next.context = server.context
  health : next.health = server.health
  pool : ∃ actions, ThreadPool.machine.run server.pool actions = some next.pool
  backends : ∃ operations, (∀ operation ∈ operations, Configured server.health operation) ∧
    next.backends = server.backends.run operations
  channels : server.observability.Linked next.observability

section

variable {σ τ : Type} [DecidableEq Stream] [Read σ] [Read τ]
  {snapshotRecord : Metrics → LogRecord} {server next : Server Stream}
  {output : Output Stream}

theorem Evolves.refl (server : Server Stream) : Evolves server server where
  config := rfl
  context := rfl
  health := rfl
  pool := ⟨[], rfl⟩
  backends := ⟨[], by simp, rfl⟩
  channels := .refl server.observability

theorem Evolves.trans {last : Server Stream} (first : Evolves server next)
    (second : Evolves next last) : Evolves server last := by
  obtain ⟨actions, ran⟩ := first.pool
  obtain ⟨more, ranOn⟩ := second.pool
  obtain ⟨operations, configured, backends⟩ := first.backends
  obtain ⟨further, alsoConfigured, backendsOn⟩ := second.backends
  constructor
  · rw [second.config, first.config]
  · rw [second.context, first.context]
  · rw [second.health, first.health]
  · exact ⟨actions ++ more, Machine.run_append_eq_some_iff.mpr ⟨next.pool, ran, ranOn⟩⟩
  · refine ⟨operations ++ further, ?_, ?_⟩
    · intro operation member
      rcases List.mem_append.mp member with before | after
      · exact configured operation before
      · have still := alsoConfigured operation after
        rwa [first.health] at still
    · rw [backendsOn, backends]
      exact List.foldl_append.symm
  · exact first.channels.trans second.channels

/-- Only what the threads around the pool hold changes. -/
theorem Evolves.around {observability : Observability} (tasks : Nat → Option Task)
    (monitor : Monitoring) (channels : server.observability.Linked observability) :
    Evolves server { server with tasks, observability, monitor } :=
  { Evolves.refl server with channels }

theorem Evolves.ofPool {pool : ThreadPool Stream} {action : PoolAction Stream}
    (taken : server.pool.step action = some pool) : Evolves server { server with pool } :=
  { Evolves.refl server with
    pool := ⟨[action], Machine.run_cons_eq_some_iff.mpr ⟨pool, taken, rfl⟩⟩ }

theorem Evolves.ofOperation {operation : BackendSet.Operation}
    (configured : Configured server.health operation) :
    Evolves server { server with backends := server.backends.step operation } :=
  { Evolves.refl server with
    backends := ⟨[operation], by simpa using configured, rfl⟩ }

theorem evolves_logAccept (entry : LogEntry) : Evolves server (server.logAccept entry).1 :=
  .around server.tasks server.monitor (Observability.linked_emitLog _ _)

theorem evolves_reject (stream : Stream) (error : MzaniError) :
    Evolves server (server.reject stream error).1 := by
  cases error with
  | poolFull =>
      let observability := server.observability
      let counted :=
        { observability with metrics := observability.metrics.recordPoolRejected }
      have sent : counted.Linked (counted.emitLog poolSaturated) :=
        Observability.linked_emitLog counted poolSaturated
      exact .around server.tasks server.monitor ⟨sent.log, sent.stats⟩
  | shutdownInProgress => exact .refl server
  | _ => exact evolves_logAccept _

theorem evolves_accept {stream : Stream}
    {setReadTimeout : Duration → Except IoError Unit}
    (taken : server.accept stream setReadTimeout = some (next, output)) :
    Evolves server next := by
  unfold accept at taken
  split at taken
  · cases taken
  · split at taken
    · cases taken
      exact evolves_logAccept _
    · split at taken
      · cases taken
        exact .refl server
      · obtain ⟨pool, entered, same⟩ := Option.map_eq_some_iff.mp taken
        cases same
        have submitted : server.pool.step (.submit stream) = some pool := entered
        exact .ofPool submitted

theorem evolves_submit (taken : server.submit = some (next, output)) :
    Evolves server next := by
  unfold submit at taken
  split at taken
  case h_1 => cases taken
  case h_2 pool advanced =>
      have moved : server.pool.step (.advance 0) = some pool := advanced
      split at taken
      · cases taken
        exact .ofPool moved
      case h_2 stream error _ _ =>
        have given : (reject { server with pool } stream error).1 = next :=
          congrArg Prod.fst (Option.some.inj taken)
        rw [← given]
        exact (Evolves.ofPool moved).trans (evolves_reject _ _)

theorem evolves_goOn {worker : Nat} {task : Task}
    (taken : server.goOn worker task = some (next, output)) : Evolves server next := by
  cases task with
  | done result =>
      obtain ⟨pool, worked, same⟩ := Option.map_eq_some_iff.mp taken
      cases same
      have moved : server.pool.step (.work worker) = some pool := worked
      exact (Evolves.ofPool moved).trans (.around _ server.monitor (.refl _))
  | perform effect rest =>
      cases taken
      cases effect with
      | emitLog record =>
          exact .around _ server.monitor (Observability.linked_emitLog _ record)
      | recordMetrics stats =>
          exact .around _ server.monitor (Observability.linked_recordMetrics _ stats)
      | _ => exact .around _ server.monitor (.refl _)
  | select rest =>
      cases taken
      have selected : Evolves server
          { server with backends := server.backends.step .select } := .ofOperation trivial
      exact selected.trans (.around _ server.monitor (.refl _))

theorem evolves_work {worker : Nat} (taken : server.work worker = some (next, output)) :
    Evolves server next := by
  unfold work at taken
  split at taken
  · exact evolves_goOn taken
  · split at taken
    · cases taken
    · obtain ⟨pool, worked, same⟩ := Option.map_eq_some_iff.mp taken
      cases same
      have moved : server.pool.step (.work worker) = some pool := worked
      exact .ofPool moved

theorem evolves_call {worker : Nat} {meets : Meets σ τ}
    (taken : server.call worker meets = some (next, output)) : Evolves server next := by
  unfold call at taken
  split at taken
  · obtain ⟨pool, worked, same⟩ := Option.map_eq_some_iff.mp taken
    cases same
    have moved : server.pool.step (.work worker) = some pool := worked
    exact (Evolves.ofPool moved).trans (.around _ server.monitor (.refl _))
  · cases taken

theorem evolves_watch (connects : Duration → Bool) :
    Evolves server (server.watch connects).1 := by
  have moved : ∀ monitor, Evolves server { server with monitor } := fun monitor =>
    .around server.tasks monitor (.refl server.observability)
  unfold watch
  split
  · exact moved _
  · exact moved _
  case h_3 addr addrs scanning =>
      let probe : Probe := { addr, ok := connects server.health.connectTimeout }
      have recorded : ∃ operation, Configured server.health operation ∧
          (server.backends.probeBackend server.health probe).1 =
            server.backends.step operation := by
        rw [BackendSet.probeBackend_fst]
        unfold BackendSet.recordProbe
        split
        · exact ⟨.success addr server.health.recoveryThreshold, rfl, rfl⟩
        · exact ⟨.failure addr server.health.failureThreshold, rfl, rfl⟩
      obtain ⟨operation, configured, same⟩ := recorded
      have sent := Observability.sends_foldl server.observability .sink
        ((server.backends.probeBackend server.health probe).2.map (·.2))
      have probed := (Evolves.ofOperation configured).trans
        (.around server.tasks (.scanning addrs) sent.linked)
      rw [← same] at probed
      exact probed
  · split
    · exact moved _
    · exact moved _

theorem evolves_of_step {event : Event Stream σ τ}
    (taken : server.step snapshotRecord event = some (next, output)) :
    Evolves server next := by
  cases event with
  | accept stream setReadTimeout => exact evolves_accept taken
  | acceptError error =>
      simp only [step] at taken
      split at taken
      · have logged : (server.logAccept (.acceptError error server.config.listen)).1 = next :=
          congrArg Prod.fst (Option.some.inj taken)
        rw [← logged]
        exact evolves_logAccept _
      · cases taken
  | submit => exact evolves_submit taken
  | work worker => exact evolves_work taken
  | call worker meets => exact evolves_call taken
  | aggregate elapsed =>
      obtain ⟨observability, aggregated, same⟩ := Option.map_eq_some_iff.mp taken
      cases same
      exact .around server.tasks server.monitor (Observability.linked_aggregate aggregated)
  | write =>
      obtain ⟨observability, written, same⟩ := Option.map_eq_some_iff.mp taken
      cases same
      exact .around server.tasks server.monitor (Observability.linked_write written)
  | monitor connects =>
      have watched : (server.watch connects).1 = next :=
        congrArg Prod.fst (Option.some.inj taken)
      rw [← watched]
      exact evolves_watch connects

/-- A run of the server is a run of the pool and a run of the backends. -/
theorem evolves_of_run {events : List (Event Stream σ τ)} {outputs : List (Output Stream)}
    (run : (machine snapshotRecord).run server events = some (next, outputs)) :
    Evolves server next := by
  apply Machine.run_induction (fun _ reached => Evolves server reached) (.refl server) _
    (Transducer.run_toMachine run)
  intro _ reached event after evolves taken
  obtain ⟨⟨state, output⟩, stepped, rfl⟩ := Option.map_eq_some_iff.mp taken
  exact evolves.trans (evolves_of_step stepped)

end

end Server

end Mzani
