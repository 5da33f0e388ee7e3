import Mzani.Balancer.SafeShutdown
import Mzani.Balancer.ServerCalls
import Mzani.Support.Refinement

/-!
# The running balancer refines the balancer with its threads

A state of the running balancer, with what its records say and what its calls
are about left out, is a state of the balancer before a shutdown.  Every step is
a run of the balancer with its threads, so what every run of those does holds of
the running balancer too.
-/

namespace Mzani

open Support

variable {Stream : Type}

/-- How far the aggregator is, whatever it adds up. -/
def Aggregating.toStep : Aggregating → MetricsStep RequestStats
  | .receiving => .receiving
  | .received stats => .aggregated stats
  | .reporting stats _ => .aggregated stats
  | .snapshotting => .reporting
  | .exited => .exited

/-- How far the monitor is; a probe is one step of a running balancer. -/
def Monitoring.toStep : Monitoring → HealthStep
  | .looping => .looping
  | .scanning addrs => .scanning addrs
  | .sleeping remaining => .sleeping remaining

namespace Server

/-- The threads, the channels and the owners of a running balancer.  Nobody has
a clone of the context or of the log sender, and no shutdown has begun. -/
def toBalancer (server : Server Stream) : Balancer Stream LogRecord RequestStats where
  config := server.config
  pool := server.pool
  log := server.observability.log
  metrics := server.observability.stats
  poolLogTx := true
  poolMetricsTx := true
  contextLogTx := true
  contextMetricsTx := true
  contextRefs := 1 + server.pool.liveWorkers
  contextHandles := 0
  logHandles := 0
  metricsThread := server.observability.aggregator.toStep
  logThread := .receiving
  healthThread := server.monitor.toStep
  healthStop := false
  healthHandle := true
  handles := .log :: .metrics :: (List.range server.config.pool.workers.val).map .worker
  run := none
  joined := []

end Server

/-! ## Runs of the threads -/

namespace Balancer

variable [DecidableEq Stream] {Record Stats : Type}
  {balancer next : Balancer Stream Record Stats}

theorem run_single {action : Action Stream Record Stats}
    (taken : balancer.step action = some next) : machine.run balancer [action] = some next :=
  Machine.run_cons_eq_some_iff.mpr ⟨next, taken, rfl⟩

/-- Whoever may use the context sends records one after another. -/
theorem run_emitLogs {user : ContextUser} (may : balancer.mayUse user = true)
    (attached : balancer.contextLogTx = true) (records : List Record) :
    machine.run balancer (records.map (.emitLog user)) =
      some { balancer with log := records.foldl Channel.trySendOrDrop balancer.log } := by
  induction records generalizing balancer with
  | nil => rfl
  | cons record records ih =>
      have taken : balancer.step (.emitLog user record) =
          some (balancer.trySendLog record) := by
        simp only [step, if_pos may, emitLog, if_pos attached]
      have mayThen : (balancer.trySendLog record).mayUse user = true := may
      have attachedThen : (balancer.trySendLog record).contextLogTx = true := attached
      rw [List.map_cons]
      exact Machine.run_cons_eq_some_iff.mpr
        ⟨balancer.trySendLog record, taken, ih mayThen attachedThen⟩

omit [DecidableEq Stream] in
theorem mayUse_worker {worker : Nat} (inCall : balancer.pool.InCall worker) :
    balancer.mayUse (.worker worker) = true := by
  obtain ⟨req, handling⟩ := inCall
  obtain ⟨⟨queue, step⟩, found, holds⟩ := Option.map_eq_some_iff.mp handling
  cases holds
  simp [mayUse, found]

end Balancer

namespace Server

variable {server next : Server Stream} {worker : Nat} {output : Output Stream}

/-- What the balancer with its threads does not know of: the call of a worker in
`handle_connection`, and that the monitor reads what was configured. -/
structure Projects (server : Server Stream) : Prop where
  attended : Attended server
  addresses : server.backends.addresses = server.config.backends.val
  health : server.health = server.config.health

variable [DecidableEq Stream]

/-- The step is a run of the threads. -/
def Follows (server next : Server Stream) : Prop :=
  ∃ actions, Balancer.machine.run server.toBalancer actions = some next.toBalancer

theorem Follows.refl (server : Server Stream) : Follows server server := ⟨[], rfl⟩

theorem Follows.trans {last : Server Stream} (first : Follows server next)
    (second : Follows next last) : Follows server last := by
  obtain ⟨actions, ran⟩ := first
  obtain ⟨more, ranOn⟩ := second
  exact ⟨actions ++ more, Machine.run_append_eq_some_iff.mpr ⟨_, ran, ranOn⟩⟩

theorem Follows.of_step (action : Action Stream LogRecord RequestStats)
    (taken : server.toBalancer.step action = some next.toBalancer) : Follows server next :=
  ⟨[action], Balancer.run_single taken⟩

omit [DecidableEq Stream] in
/-- A step of the pool in which no worker leaves its loop. -/
theorem toBalancer_setPool {pool : ThreadPool Stream}
    (same : pool.liveWorkers = server.pool.liveWorkers) :
    { server with pool }.toBalancer = { server.toBalancer with pool } := by
  simp only [toBalancer, same]

/-- A user of the context sends some records. -/
theorem follows_sends (user : ContextUser) {observability : Observability}
    {records : List LogRecord} (may : server.toBalancer.mayUse user = true)
    (sends : server.observability.Sends observability records) :
    Follows server { server with observability } := by
  refine ⟨records.map (.emitLog user), ?_⟩
  rw [Balancer.run_emitLogs may rfl records]
  simp only [toBalancer, sends.log, sends.stats, sends.aggregator]

theorem follows_emitLog (user : ContextUser) (may : server.toBalancer.mayUse user = true)
    (record : LogRecord) :
    Follows server { server with observability := server.observability.emitLog record } := by
  obtain ⟨warnings, sends⟩ := Observability.sends_emitLog server.observability record
  exact follows_sends user may sends

theorem follows_logAccept (entry : LogEntry) : Follows server (server.logAccept entry).1 :=
  follows_emitLog .borrower rfl entry.record

theorem follows_reject (stream : Stream) (error : MzaniError) :
    Follows server (server.reject stream error).1 := by
  cases error with
  | poolFull =>
      let observability := server.observability
      let counted :=
        { observability with metrics := observability.metrics.recordPoolRejected }
      obtain ⟨warnings, sends⟩ := Observability.sends_emitLog counted poolSaturated
      have sent : server.observability.Sends (counted.emitLog poolSaturated)
        (poolSaturated :: warnings) := ⟨sends.log, sends.stats, sends.aggregator⟩
      exact follows_sends .borrower rfl sent
  | shutdownInProgress => exact .refl server
  | _ => exact follows_logAccept _

theorem follows_submit (taken : server.submit = some (next, output)) :
    Follows server next := by
  unfold submit at taken
  split at taken
  case h_1 => cases taken
  case h_2 pool advanced =>
      have live := ThreadPool.liveWorkers_of_advances (ThreadPool.advances_of_advance advanced)
      have inPool : server.toBalancer.pool.advance 0 = some pool := advanced
      have moved : server.toBalancer.step (.advance 0) =
          some { server with pool }.toBalancer := by
        rw [toBalancer_setPool live, Balancer.step, inPool, Option.map_some]
      split at taken
      · cases taken
        exact .of_step _ moved
      case h_2 stream error _ _ =>
          have given : (reject { server with pool } stream error).1 = next :=
            congrArg Prod.fst (Option.some.inj taken)
          rw [← given]
          exact (Follows.of_step _ moved).trans (follows_reject stream error)

theorem follows_accept {stream : Stream} {setReadTimeout : Duration → Except IoError Unit}
    (taken : server.accept stream setReadTimeout = some (next, output)) :
    Follows server next := by
  unfold accept at taken
  split at taken
  · cases taken
  · split at taken
    · cases taken
      exact follows_logAccept _
    · split at taken
      · cases taken
        exact .refl server
      · obtain ⟨pool, entered, same⟩ := Option.map_eq_some_iff.mp taken
        cases same
        have live : pool.liveWorkers = server.pool.liveWorkers := by
          rw [ThreadPool.liveWorkers, ThreadPool.lanes_of_enterSubmit entered]
          rfl
        have inPool : server.toBalancer.pool.enterSubmit stream = some pool := entered
        have serving : server.toBalancer.run.isSome = false := rfl
        apply Follows.of_step _
        · rw [toBalancer_setPool live, Balancer.step, serving, inPool]
          rfl

/-- A step of the loop of a worker; its reference to the context goes with it. -/
theorem follows_pool {pool : ThreadPool Stream} (worked : server.pool.work worker = some pool) :
    Follows server { server with pool } := by
  have inPool : server.toBalancer.pool.work worker = some pool := worked
  obtain ⟨lane, found, outcome⟩ :=
    ThreadPool.liveWorkers_of_works (ThreadPool.works_of_work worked)
  obtain ⟨queue, step⟩ := lane
  have refs : server.toBalancer.contextRefs = 1 + server.pool.liveWorkers := rfl
  apply Follows.of_step (.work worker)
  rcases outcome with ⟨exited, fewer⟩ | ⟨stays, same⟩
  · cases exited
    have left : server.toBalancer.contextRefs - 1 = 1 + pool.liveWorkers := by omega
    simp only [Balancer.step, Balancer.work, inPool, found, left]
    rfl
  · rw [toBalancer_setPool same, Balancer.step, Balancer.work, inPool]
    dsimp only
    rw [found]
    cases step with
    | exited => exact absurd rfl stays
    | _ => rfl

theorem follows_apply (inCall : server.pool.InCall worker) (effect : Effect) :
    Follows server (server.apply effect) := by
  have may : server.toBalancer.mayUse (.worker worker) = true := Balancer.mayUse_worker inCall
  cases effect with
  | emitLog record => exact follows_emitLog _ may record
  | recordMetrics stats =>
      obtain ⟨sent, log, aggregator⟩ :=
        Observability.stats_recordMetrics server.observability stats
      apply Follows.of_step (.recordMetrics (.worker worker) stats)
      rw [Balancer.step, if_pos may]
      simp only [Balancer.recordMetrics, apply, toBalancer, sent, log, aggregator, if_true]
  | _ => exact .refl server

theorem follows_work (projects : server.Projects)
    (taken : server.work worker = some (next, output)) : Follows server next := by
  unfold work at taken
  split at taken
  case h_1 task found =>
      cases task with
      | done result =>
          obtain ⟨pool, worked, same⟩ := Option.map_eq_some_iff.mp taken
          cases same
          exact follows_pool worked
      | perform effect rest =>
          cases taken
          exact follows_apply (projects.attended.inCall found) effect
      | select rest =>
          cases taken
          exact .refl server
  case h_2 =>
      split at taken
      · cases taken
      · obtain ⟨pool, worked, same⟩ := Option.map_eq_some_iff.mp taken
        cases same
        exact follows_pool worked

theorem follows_call {σ τ : Type} [Read σ] [Read τ] {meets : Meets σ τ}
    (taken : server.call worker meets = some (next, output)) : Follows server next := by
  unfold call at taken
  split at taken
  · obtain ⟨pool, worked, same⟩ := Option.map_eq_some_iff.mp taken
    cases same
    exact follows_pool worked
  · cases taken

/-- The context has a sender of statistics, so the aggregator goes on. -/
theorem follows_aggregate {snapshotRecord : Metrics → LogRecord} {elapsed : Bool}
    {observability : Observability} (plumbed : server.toBalancer.Plumbed)
    (taken : server.observability.aggregate snapshotRecord elapsed = some observability) :
    Follows server { server with observability } := by
  unfold Observability.aggregate at taken
  split at taken
  case h_1 receiving =>
      split at taken
      case h_1 stats channel answer =>
          cases taken
          refine .of_step (.aggregate (snapshotRecord .default) false) ?_
          simp only [Balancer.step, Balancer.aggregate, toBalancer, receiving,
            Aggregating.toStep, answer]
      case h_2 gone =>
          have none := (Channel.recv_eq_disconnected_iff.mp gone).2
          have senders : server.observability.stats.senders = 2 := plumbed.metricsSenders
          rw [none] at senders
          cases senders
      case h_3 => cases taken
  case h_2 stats received =>
      cases taken
      refine ⟨[], ?_⟩
      simp only [Machine.run_nil, toBalancer, received, Aggregating.toStep]
  case h_3 stats due reporting =>
      cases taken
      let record := stats.toMetricsRecord ⟨stats.reqId, stats.workerId⟩
      have sends := Observability.sends_send server.observability .aggregator record
      refine .of_step (.aggregate record due) ?_
      cases due <;>
        simp [Balancer.step, Balancer.aggregate, toBalancer, reporting, Aggregating.toStep,
          Balancer.trySendLog, sends.log, sends.stats, record]
  case h_4 snapshotting =>
      cases taken
      let record := snapshotRecord server.observability.metrics
      have sends := Observability.sends_send server.observability .aggregator record
      refine .of_step (.aggregate record false) ?_
      simp [Balancer.step, Balancer.aggregate, toBalancer, snapshotting, Aggregating.toStep,
        Balancer.trySendLog, sends.log, sends.stats, record]
  case h_5 => cases taken

/-- The writer receives a record and writes it. -/
theorem follows_write {observability : Observability} (plumbed : server.toBalancer.Plumbed)
    (taken : server.observability.write = some observability) :
    Follows server { server with observability } := by
  unfold Observability.write at taken
  split at taken
  case h_1 record log answer =>
      cases taken
      refine ⟨[.write, .write], ?_⟩
      simp only [Machine.run, Balancer.machine, Balancer.step, Balancer.write, toBalancer, answer]
  case h_2 gone =>
      have none := (Channel.recv_eq_disconnected_iff.mp gone).2
      have senders := plumbed.logSenders
      simp only [toBalancer, Bool.toNat_true, none] at senders
      omega
  case h_3 => cases taken

/-- The body of the inner loop of the monitor is two steps of its thread: the
address is taken, and the probe may send a record. -/
theorem follows_watch (projects : server.Projects) (connects : Duration → Bool) :
    Follows server (server.watch connects).1 := by
  unfold watch
  split
  case h_1 looping =>
      apply Follows.of_step (.probe none)
      simp [Balancer.step, Balancer.probe, toBalancer, looping, Monitoring.toStep,
        projects.addresses]
  case h_2 scanning =>
      apply Follows.of_step (.probe none)
      simp [Balancer.step, Balancer.probe, toBalancer, scanning, Monitoring.toStep,
        projects.health]
  case h_3 addr addrs scanning =>
      let probe : Probe := { addr, ok := connects server.health.connectTimeout }
      let records := (server.backends.probeBackend server.health probe).2.map (·.2)
      have sends := Observability.sends_foldl server.observability .sink records
      have atMostOne : records.length ≤ 1 := by
        rw [List.length_map]
        unfold BackendSet.probeBackend
        dsimp only
        split <;> split <;> simp
      refine ⟨[.probe none, .probe records.head?], ?_⟩
      change _ = some { server with
        backends := (server.backends.probeBackend server.health probe).1
        monitor := .scanning addrs
        observability := records.foldl (·.send .sink ·) server.observability }.toBalancer
      cases given : records with
      | nil =>
          simp [Machine.run, Balancer.machine, Balancer.step, Balancer.probe, toBalancer,
            scanning, Monitoring.toStep]
      | cons record rest =>
          have alone : rest = [] := by
            rw [given, List.length_cons] at atMostOne
            exact List.length_eq_zero_iff.mp (by omega)
          subst alone
          rw [given] at sends
          simp only [toBalancer, sends.log, sends.stats, sends.aggregator, Monitoring.toStep]
          simp [Machine.run, Balancer.machine, Balancer.step, Balancer.probe, scanning,
            Balancer.trySendLog]
  case h_4 remaining sleeping =>
      split
      case isTrue ended =>
          apply Follows.of_step (.probe none)
          simp [Balancer.step, Balancer.probe, toBalancer, sleeping, Monitoring.toStep, ended]
      case isFalse asleep =>
          apply Follows.of_step (.probe none)
          simp [Balancer.step, Balancer.probe, toBalancer, sleeping, Monitoring.toStep, asleep]

section

variable {σ τ : Type} [Read σ] [Read τ] {snapshotRecord : Metrics → LogRecord}

theorem follows_of_step {event : Event Stream σ τ} (projects : server.Projects)
    (plumbed : server.toBalancer.Plumbed)
    (taken : server.step snapshotRecord event = some (next, output)) :
    Follows server next := by
  cases event with
  | accept stream setReadTimeout => exact follows_accept taken
  | acceptError error =>
      simp only [step] at taken
      split at taken
      · have logged : (server.logAccept (.acceptError error server.config.listen)).1 = next :=
          congrArg Prod.fst (Option.some.inj taken)
        rw [← logged]
        exact follows_logAccept _
      · cases taken
  | submit => exact follows_submit taken
  | work worker => exact follows_work projects taken
  | call worker meets => exact follows_call taken
  | aggregate elapsed =>
      obtain ⟨observability, aggregated, same⟩ := Option.map_eq_some_iff.mp taken
      cases same
      exact follows_aggregate plumbed aggregated
  | write =>
      obtain ⟨observability, written, same⟩ := Option.map_eq_some_iff.mp taken
      cases same
      exact follows_write plumbed written
  | monitor connects =>
      have watched : (server.watch connects).1 = next :=
        congrArg Prod.fst (Option.some.inj taken)
      rw [← watched]
      exact follows_watch projects connects

theorem projects_of_step {event : Event Stream σ τ} (projects : server.Projects)
    (taken : server.step snapshotRecord event = some (next, output)) : next.Projects := by
  have evolves := evolves_of_step taken
  obtain ⟨operations, _, backends⟩ := evolves.backends
  constructor
  · exact attended_of_turns projects.attended (turns_of_step taken)
  · rw [backends, BackendSet.addresses_run, evolves.config]
    exact projects.addresses
  · rw [evolves.health, evolves.config]
    exact projects.health

/-- Each step of the running balancer is a run of the threads. -/
theorem refines_threads (σ τ : Type) [Read σ] [Read τ] (snapshotRecord : Metrics → LogRecord) :
    (machine snapshotRecord : Transducer (Server Stream) (Event Stream σ τ) _).toMachine.Refines
      Balancer.machine
      (fun server => server.Projects ∧ Balancer.Reached server.toBalancer) toBalancer := by
  apply Machine.Refines.of_invariant Balancer.Reached
  · intro balancer action next reached taken
    exact reached.step taken
  · intro server event next projects reached taken
    obtain ⟨⟨state, output⟩, stepped, rfl⟩ := Option.map_eq_some_iff.mp taken
    exact ⟨projects_of_step projects stepped,
      follows_of_step projects reached.invariant.1 stepped⟩

end

/-! ## The start -/

omit [DecidableEq Stream] in
theorem projects_of_started {config : BalancerConfig} (started : Started config server) :
    server.Projects where
  attended := attended_of_started started
  addresses := by
    rw [started.backends, BackendSet.addresses_new, started.config]
  health := by rw [started.health, started.config]

omit [DecidableEq Stream] in
/-- What `Balancer::build` makes, seen as the threads, is what it makes of
them. -/
theorem toBalancer_of_build {config : BalancerConfig} {openLog : String → MzaniResult Unit}
    (built : build config openLog = .ok server) :
    Balancer.build config (openLog config.logDir)
        (serverStart config.listen config.backends.val config.pool.workers.val) =
      .ok server.toBalancer := by
  have targets : (BackendSet.new config.backends).addresses = config.backends.val :=
    BackendSet.addresses_new config.backends
  generalize made : Balancer.build config (openLog config.logDir)
    (serverStart config.listen config.backends.val config.pool.workers.val) = answer
  unfold build at built
  unfold Balancer.build at made
  split at built
  case h_1 => cases built
  case h_2 valid =>
      have poolValid := ((BalancerConfig.validate_eq_ok_iff config).mp valid).2.2.2
      simp only [RoutedContext.fromConfig, valid] at built
      dsimp only [bind, Except.bind] at built
      split at built
      case h_1 => cases built
      case h_2 pool created =>
          have sends := Observability.sends_send (Observability.spawn config.pool poolValid 0)
            .sink (serverStart config.listen config.backends.val config.pool.workers.val)
          obtain ⟨positive, rfl⟩ := ThreadPool.new_ok created
          have live : (ThreadPool.spawn config.pool positive false :
              ThreadPool Stream).liveWorkers = config.pool.workers.val :=
            Balancer.liveWorkers_spawn
          cases built
          split at made
          case h_1 error invalid =>
              rw [valid] at invalid
              cases invalid
          case h_2 =>
              dsimp only at made
              rw [created] at made
              rw [← made]
              simp only [toBalancer, RoutedContext.targetServers, Observability.start, targets,
                sends.log, sends.stats, sends.aggregator, live]
              rfl

/-- Every state that the running balancer reaches is one that its threads reach
from `Balancer::build`. -/
theorem threads_of_run {σ τ : Type} [Read σ] [Read τ] {snapshotRecord : Metrics → LogRecord}
    {config : BalancerConfig} {openLog : String → MzaniResult Unit}
    {events : List (Event Stream σ τ)} {outputs : List (Output Stream)}
    (built : build config openLog = .ok server)
    (run : (machine snapshotRecord).run server events = some (next, outputs)) :
    Balancer.Reached next.toBalancer ∧
      ∃ actions, Balancer.machine.run server.toBalancer actions = some next.toBalancer := by
  have reached : Balancer.Reached server.toBalancer := .build (toBalancer_of_build built)
  have projects := projects_of_started (started_of_build built)
  obtain ⟨⟨_, reachedThen⟩, ran⟩ := (refines_threads σ τ snapshotRecord).run
    ⟨projects, reached⟩ (Transducer.run_toMachine run)
  exact ⟨reachedThen, ran⟩

/-- A connection is accepted and queued; a worker, the writer and the monitor go
on. -/
def oneArrival : List (Event Nat Source Source) :=
  [.accept 7 fun _ => .ok (), .submit, .monitor fun _ => true, .submit, .write, .submit, .work 0,
    .monitor fun _ => true]

end Server

end Mzani
