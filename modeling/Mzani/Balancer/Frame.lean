import Mzani.Balancer.Plumbing

/-!
# What shutdown achieves is kept

No step brings back a sender that an owner has given up, a handle that was
taken, or a thread that has exited.
-/

namespace Mzani

open Support

variable {Stream Record Stats : Type}

namespace ThreadPool

variable {pool next : ThreadPool Stream}

/-- The worker has left its loop. -/
def Gone (pool : ThreadPool Stream) (worker : Nat) : Prop :=
  ∃ lane, pool.lanes[worker]? = some lane ∧ lane.worker = .exited

/-- What a step of the pool does not undo. -/
structure Keeps (pool next : ThreadPool Stream) : Prop where
  shuttingDown : pool.shuttingDown = true → next.shuttingDown = true
  connectionTxs : pool.connectionTxs = [] → next.connectionTxs = []
  workers : next.lanes.length = pool.lanes.length
  gone : ∀ worker, pool.Gone worker → next.Gone worker

theorem gone_setLane {worker other : Nat} {lane old : Lane Stream}
    (atWorker : pool.lanes[worker]? = some old)
    (kept : old.worker = .exited → lane.worker = .exited) (gone : pool.Gone other) :
    (pool.setLane worker lane).Gone other := by
  obtain ⟨found, atOther, exited⟩ := gone
  by_cases same : other = worker
  · subst same
    rw [atWorker, Option.some.injEq] at atOther
    subst atOther
    exact ⟨lane, lanes_setLane atWorker, kept exited⟩
  · refine ⟨found, ?_, exited⟩
    rw [setLane, List.getElem?_set_ne (Ne.symm same)]
    exact atOther

theorem keeps_setLane {worker : Nat} {old : Lane Stream} (lane : Lane Stream)
    (found : pool.lanes[worker]? = some old)
    (kept : old.worker = .exited → lane.worker = .exited) :
    Keeps pool (pool.setLane worker lane) where
  shuttingDown := id
  connectionTxs := id
  workers := by rw [setLane, List.length_set]
  gone := fun _ => gone_setLane found kept

theorem keeps_of_advances {number : Nat} (advances : Advances pool number next) :
    Keeps pool next := by
  cases advances with
  | giveBack => exact ⟨id, id, rfl, fun _ => id⟩
  | goOn => exact ⟨id, id, rfl, fun _ => id⟩
  | @send call worker lane queue _ _ found =>
      have atLane : (pool.endCall number).lanes[worker]? = some lane := found
      exact { keeps_setLane { lane with queue } atLane id with }

theorem keeps_of_works {worker : Nat} (works : Works pool worker next) :
    Keeps pool next := by
  cases works with
  | receive found waiting =>
      exact { keeps_setLane _ found fun exited => absurd exited (running_of_holds waiting nofun)
        with }
  | exit found => exact keeps_setLane _ found fun _ => rfl
  | refuse found holds =>
      exact keeps_setLane _ found fun exited => absurd exited (running_of_holds holds nofun)
  | accept found holds =>
      exact keeps_setLane _ found fun exited => absurd exited (running_of_holds holds nofun)
  | answer found holds =>
      exact { keeps_setLane _ found fun exited => absurd exited (running_of_holds holds nofun)
        with }
  | handle found holds =>
      exact { keeps_setLane _ found fun exited => absurd exited (running_of_holds holds nofun)
        with }
  | finish found holds =>
      exact keeps_setLane _ found fun exited => absurd exited (running_of_holds holds nofun)

theorem keeps_of_steps (steps : Steps pool next) : Keeps pool next := by
  cases steps with
  | enter => exact ⟨id, id, rfl, fun _ => id⟩
  | advance advances => exact keeps_of_advances advances
  | work works => exact keeps_of_works works
  | signal => exact ⟨fun _ => rfl, id, rfl, fun _ => id⟩
  | beginStop => exact ⟨fun _ => rfl, id, rfl, fun _ => id⟩
  | @dropSender _ _ lane _ dropped =>
      obtain ⟨_, senders, found, rfl⟩ := dropped
      have kept := keeps_setLane { lane with queue := lane.queue.dropSender } found id
      refine { kept with connectionTxs := fun none => ?_ }
      rw [senders] at none
      cases none
  | endStop => exact ⟨id, id, rfl, fun _ => id⟩

end ThreadPool

namespace Balancer

variable {balancer next : Balancer Stream Record Stats}

theorem hasExited_worker_iff {worker : Nat} :
    balancer.hasExited (.worker worker) = true ↔ balancer.pool.Gone worker := by
  rw [hasExited, ThreadPool.Gone]
  cases found : balancer.pool.lanes[worker]? with
  | none => simp
  | some lane =>
      obtain ⟨queue, step⟩ := lane
      cases step <;> simp

theorem hasExited_metrics_iff :
    balancer.hasExited .metrics = true ↔ balancer.metricsThread = .exited := by
  rw [hasExited]
  cases balancer.metricsThread <;> simp

theorem hasExited_log_iff :
    balancer.hasExited .log = true ↔ balancer.logThread = .exited := by
  rw [hasExited]
  cases balancer.logThread <;> simp

theorem hasExited_health_iff :
    balancer.hasExited .health = true ↔ balancer.healthThread = .exited := by
  rw [hasExited]
  cases balancer.healthThread <;> simp

/-- What a step of the balancer does not undo. -/
structure Keeps (balancer next : Balancer Stream Record Stats) : Prop where
  pool : ThreadPool.Keeps balancer.pool next.pool
  exited : ∀ thread, balancer.hasExited thread = true → next.hasExited thread = true
  healthStop : balancer.healthStop = true → next.healthStop = true
  healthHandle : balancer.healthHandle = false → next.healthHandle = false
  handles : balancer.handles = [] → next.handles = []
  contextLogTx : balancer.contextLogTx = false → next.contextLogTx = false
  contextMetricsTx : balancer.contextMetricsTx = false → next.contextMetricsTx = false
  poolMetricsTx : balancer.poolMetricsTx = false → next.poolMetricsTx = false
  poolLogTx : balancer.poolLogTx = false → next.poolLogTx = false

theorem Keeps.refl (balancer : Balancer Stream Record Stats) : Keeps balancer balancer :=
  ⟨⟨id, id, rfl, fun _ => id⟩, fun _ => id, id, id, id, id, id, id, id⟩

/-- A step of the pool. -/
theorem keeps_setPool {pool : ThreadPool Stream}
    (kept : ThreadPool.Keeps balancer.pool pool) : Keeps balancer { balancer with pool } :=
  { Keeps.refl balancer with
    pool := kept
    exited := fun thread exited => by
      cases thread with
      | worker worker =>
          rw [hasExited_worker_iff] at exited ⊢
          exact kept.gone worker exited
      | metrics => exact exited
      | log => exact exited
      | health => exact exited }

/-- A step of the other threads. -/
theorem keeps_setThreads {log : Channel Record} {metrics : Channel Stats}
    {metricsThread : MetricsStep Stats} {logThread : LogStep Record}
    {healthThread : HealthStep}
    (metricsKept : balancer.metricsThread = .exited → metricsThread = .exited)
    (logKept : balancer.logThread = .exited → logThread = .exited)
    (healthKept : balancer.healthThread = .exited → healthThread = .exited) :
    Keeps balancer
      { balancer with log, metrics, metricsThread, logThread, healthThread } :=
  { Keeps.refl balancer with
    exited := fun thread exited => by
      cases thread with
      | worker worker => exact exited
      | metrics =>
          rw [hasExited_metrics_iff] at exited ⊢
          exact metricsKept exited
      | log =>
          rw [hasExited_log_iff] at exited ⊢
          exact logKept exited
      | health =>
          rw [hasExited_health_iff] at exited ⊢
          exact healthKept exited }

theorem keeps_aggregate {record : Record} {due : Bool}
    (taken : balancer.aggregate record due = some next) : Keeps balancer next := by
  have running : balancer.metricsThread ≠ .exited := fun exited => by
    rw [aggregate, exited] at taken
    cases taken
  unfold aggregate at taken
  split at taken
  · split at taken
    · cases taken
      exact keeps_setThreads (fun exited => absurd exited running) id id
    · cases taken
      exact keeps_setThreads (fun exited => absurd exited running) id id
    · cases taken
  · cases taken
    exact keeps_setThreads (fun exited => absurd exited running) id id
  · cases taken
    exact keeps_setThreads (fun exited => absurd exited running) id id
  · cases taken

theorem keeps_write (taken : balancer.write = some next) : Keeps balancer next := by
  have running : balancer.logThread ≠ .exited := fun exited => by
    rw [write, exited] at taken
    cases taken
  unfold write at taken
  split at taken
  · split at taken
    · cases taken
      exact keeps_setThreads id (fun exited => absurd exited running) id
    · cases taken
      exact keeps_setThreads id (fun exited => absurd exited running) id
    · cases taken
  · cases taken
    exact keeps_setThreads id (fun exited => absurd exited running) id
  · cases taken

theorem keeps_probe {record : Option Record} (taken : balancer.probe record = some next) :
    Keeps balancer next := by
  have running : balancer.healthThread ≠ .exited := fun exited => by
    rw [probe, exited] at taken
    cases taken
  unfold probe at taken
  split at taken
  · split at taken <;> cases taken
    · exact keeps_setThreads id id fun exited => absurd exited running
    · exact keeps_setThreads id id fun exited => absurd exited running
  · cases taken
    exact keeps_setThreads id id fun exited => absurd exited running
  · split at taken <;> cases taken
    · exact keeps_setThreads id id fun exited => absurd exited running
    · exact keeps_setThreads id id fun exited => absurd exited running
  · split at taken <;> cases taken
    · exact keeps_setThreads id id fun exited => absurd exited running
    · exact keeps_setThreads id id fun exited => absurd exited running
  · split at taken <;> cases taken
    · exact keeps_setThreads id id fun exited => absurd exited running
    · exact keeps_setThreads id id fun exited => absurd exited running
  · cases taken

/-! ## Steps of the other threads during shutdown -/

/-- Nobody but the owner and its threads has a hold on the balancer. -/
structure Alone (balancer : Balancer Stream Record Stats) : Prop where
  contextHandles : balancer.contextHandles = 0
  logHandles : balancer.logHandles = 0
  calls : balancer.pool.calls = []

/-- A step that touches no handle. -/
structure SameHold (balancer next : Balancer Stream Record Stats) : Prop where
  keeps : Keeps balancer next
  joined : next.joined = balancer.joined
  handles : next.handles = balancer.handles
  healthHandle : next.healthHandle = balancer.healthHandle
  calls : next.pool.calls = balancer.pool.calls
  contextHandles : next.contextHandles = balancer.contextHandles
  logHandles : next.logHandles = balancer.logHandles

/-- What a step of another thread leaves to the owner. -/
structure Undisturbed (balancer next : Balancer Stream Record Stats) : Prop
    extends SameHold balancer next where
  run : next.run = balancer.run
  stopping : next.pool.stopping = balancer.pool.stopping

theorem undisturbed_work {worker : Nat} (taken : balancer.work worker = some next) :
    Undisturbed balancer next := by
  obtain ⟨pool, lane, works, _, ⟨_, _, rfl⟩ | ⟨_, _, rfl⟩⟩ := work_cases taken
  · have keeps : Keeps balancer { balancer with pool } :=
      keeps_setPool (ThreadPool.keeps_of_works works)
    cases works <;> exact ⟨⟨{ keeps with }, rfl, rfl, rfl, rfl, rfl, rfl⟩, rfl, rfl⟩
  · have keeps : Keeps balancer { balancer with pool } :=
      keeps_setPool (ThreadPool.keeps_of_works works)
    cases works <;> exact ⟨⟨keeps, rfl, rfl, rfl, rfl, rfl, rfl⟩, rfl, rfl⟩

theorem undisturbed_aggregate {record : Record} {due : Bool}
    (taken : balancer.aggregate record due = some next) : Undisturbed balancer next := by
  have keeps := keeps_aggregate taken
  unfold aggregate at taken
  split at taken
  · split at taken <;> cases taken <;> exact ⟨⟨keeps, rfl, rfl, rfl, rfl, rfl, rfl⟩, rfl, rfl⟩
  · cases taken
    exact ⟨⟨keeps, rfl, rfl, rfl, rfl, rfl, rfl⟩, rfl, rfl⟩
  · cases taken
    exact ⟨⟨keeps, rfl, rfl, rfl, rfl, rfl, rfl⟩, rfl, rfl⟩
  · cases taken

theorem undisturbed_write (taken : balancer.write = some next) :
    Undisturbed balancer next := by
  have keeps := keeps_write taken
  unfold write at taken
  split at taken
  · split at taken <;> cases taken <;> exact ⟨⟨keeps, rfl, rfl, rfl, rfl, rfl, rfl⟩, rfl, rfl⟩
  · cases taken
    exact ⟨⟨keeps, rfl, rfl, rfl, rfl, rfl, rfl⟩, rfl, rfl⟩
  · cases taken

theorem undisturbed_probe {record : Option Record}
    (taken : balancer.probe record = some next) : Undisturbed balancer next := by
  have keeps := keeps_probe taken
  unfold probe at taken
  split at taken
  · split at taken <;> cases taken <;> exact ⟨⟨keeps, rfl, rfl, rfl, rfl, rfl, rfl⟩, rfl, rfl⟩
  · cases taken
    exact ⟨⟨keeps, rfl, rfl, rfl, rfl, rfl, rfl⟩, rfl, rfl⟩
  · split at taken <;> cases taken <;> exact ⟨⟨keeps, rfl, rfl, rfl, rfl, rfl, rfl⟩, rfl, rfl⟩
  · split at taken <;> cases taken <;> exact ⟨⟨keeps, rfl, rfl, rfl, rfl, rfl, rfl⟩, rfl, rfl⟩
  · split at taken <;> cases taken <;> exact ⟨⟨keeps, rfl, rfl, rfl, rfl, rfl, rfl⟩, rfl, rfl⟩
  · cases taken

theorem undisturbed_emitLog (record : Record) :
    Undisturbed balancer (balancer.emitLog record) := by
  unfold emitLog
  split
  · exact ⟨⟨keeps_setThreads id id id, rfl, rfl, rfl, rfl, rfl, rfl⟩, rfl, rfl⟩
  · exact ⟨⟨Keeps.refl balancer, rfl, rfl, rfl, rfl, rfl, rfl⟩, rfl, rfl⟩

theorem undisturbed_recordMetrics (stats : Stats) :
    Undisturbed balancer (balancer.recordMetrics stats) := by
  unfold recordMetrics
  split
  · exact ⟨⟨keeps_setThreads id id id, rfl, rfl, rfl, rfl, rfl, rfl⟩, rfl, rfl⟩
  · exact ⟨⟨Keeps.refl balancer, rfl, rfl, rfl, rfl, rfl, rfl⟩, rfl, rfl⟩

/-- During shutdown a step is one of the owner, or leaves alone what the owner
has achieved. -/
theorem step_during_run [DecidableEq Stream] {run : ShutdownRun}
    {action : Action Stream Record Stats} (running : balancer.run = some run)
    (alone : balancer.Alone) (taken : balancer.step action = some next) :
    (∃ snapshot, action = .own snapshot ∧
        balancer.shutdownStep run snapshot = some next) ∨
      Undisturbed balancer next := by
  obtain ⟨noContext, noLog, noCall⟩ := alone
  cases action with
  | submit stream => simp [step, running] at taken
  | advance call => simp [step, ThreadPool.advance, noCall] at taken
  | work worker => exact .inr (undisturbed_work taken)
  | emitLog user record =>
      simp only [step] at taken
      split at taken
      · cases taken
        exact .inr (undisturbed_emitLog record)
      · cases taken
  | recordMetrics user stats =>
      simp only [step] at taken
      split at taken
      · cases taken
        exact .inr (undisturbed_recordMetrics stats)
      · cases taken
  | cloneContext => simp [step, running, noContext] at taken
  | dropContext => simp [step, noContext] at taken
  | cloneLogSender => simp [step, running, noLog] at taken
  | dropLogSender => simp [step, noLog] at taken
  | sendLog record => simp [step, noLog] at taken
  | aggregate record due => exact .inr (undisturbed_aggregate taken)
  | write => exact .inr (undisturbed_write taken)
  | probe record => exact .inr (undisturbed_probe taken)
  | beginShutdown kind => simp [step, beginShutdown, running] at taken
  | own snapshot =>
      simp only [step, running] at taken
      exact .inl ⟨snapshot, rfl, taken⟩

end Balancer

end Mzani
