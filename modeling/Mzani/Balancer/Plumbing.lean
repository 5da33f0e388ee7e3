import Mzani.Balancer

/-!
# Senders and references of the balancer

In every reachable state the senders of the log channel and of the metrics
channel, and the references to the context, are those of the known owners.
-/

namespace Mzani

open Support

variable {Stream Record Stats : Type}

/-- One for a thread in its loop, none after it. -/
def WorkerStep.live : WorkerStep Stream → Nat
  | .exited => 0
  | _ => 1

def MetricsStep.live : MetricsStep Stats → Nat
  | .exited => 0
  | _ => 1

def HealthStep.live : HealthStep → Nat
  | .exited => 0
  | _ => 1

namespace ThreadPool

variable {pool next : ThreadPool Stream}

def liveWorkers (pool : ThreadPool Stream) : Nat :=
  (pool.lanes.map (·.worker.live)).sum

theorem liveWorkers_setLane {worker : Nat} {old : Lane Stream} (lane : Lane Stream)
    (found : pool.lanes[worker]? = some old) :
    (pool.setLane worker lane).liveWorkers + old.worker.live =
      pool.liveWorkers + lane.worker.live :=
  tally_set lane found

/-- A step inside a lane whose worker stays in its loop, or is not touched. -/
theorem liveWorkers_setLane_same {worker : Nat} {lane old : Lane Stream}
    (found : pool.lanes[worker]? = some old) (same : lane.worker.live = old.worker.live) :
    (pool.setLane worker lane).liveWorkers = pool.liveWorkers := by
  have counted := liveWorkers_setLane lane found
  omega

/-- A worker leaves its loop, or stays in it. -/
theorem liveWorkers_of_works {worker : Nat} (works : Works pool worker next) :
    ∃ lane, next.lanes[worker]? = some lane ∧
      ((lane.worker = .exited ∧ next.liveWorkers + 1 = pool.liveWorkers) ∨
        (lane.worker ≠ .exited ∧ next.liveWorkers = pool.liveWorkers)) := by
  cases works with
  | receive found waiting =>
      refine ⟨_, lanes_setLane found, .inr ⟨nofun, ?_⟩⟩
      exact liveWorkers_setLane_same found (by rw [waiting]; rfl)
  | @exit lane found waiting =>
      refine ⟨_, lanes_setLane found, .inl ⟨rfl, ?_⟩⟩
      have counted := liveWorkers_setLane ⟨lane.queue.dropReceiver, .exited⟩ found
      rw [waiting] at counted
      exact counted
  | refuse found holds =>
      refine ⟨_, lanes_setLane found, .inr ⟨nofun, ?_⟩⟩
      exact liveWorkers_setLane_same found (by rw [holds]; rfl)
  | accept found holds =>
      refine ⟨_, lanes_setLane found, .inr ⟨nofun, ?_⟩⟩
      exact liveWorkers_setLane_same found (by rw [holds]; rfl)
  | answer found holds =>
      refine ⟨_, lanes_setLane found, .inr ⟨nofun, ?_⟩⟩
      exact liveWorkers_setLane_same found (by rw [holds]; rfl)
  | handle found holds =>
      refine ⟨_, lanes_setLane found, .inr ⟨nofun, ?_⟩⟩
      exact liveWorkers_setLane_same found (by rw [holds]; rfl)
  | finish found holds =>
      refine ⟨_, lanes_setLane found, .inr ⟨nofun, ?_⟩⟩
      exact liveWorkers_setLane_same found (by rw [holds]; rfl)

theorem liveWorkers_of_advances {number : Nat} (advances : Advances pool number next) :
    next.liveWorkers = pool.liveWorkers := by
  cases advances with
  | giveBack => rfl
  | goOn => rfl
  | @send call worker lane queue _ _ found =>
      have atLane : (pool.endCall number).lanes[worker]? = some lane := found
      exact liveWorkers_setLane_same atLane rfl

theorem liveWorkers_of_dropsSender {worker : Nat} {lane : Lane Stream} {rest : List Nat}
    (dropped : DropsSender pool next worker lane rest) :
    next.liveWorkers = pool.liveWorkers := by
  rw [dropped.result]
  exact liveWorkers_setLane_same dropped.found rfl

theorem lanes_of_enterSubmit [DecidableEq Stream] {stream : Stream}
    (taken : pool.enterSubmit stream = some next) : next.lanes = pool.lanes := by
  unfold enterSubmit at taken
  split at taken
  · cases taken
  split at taken
  · split at taken
    · cases taken
      rfl
    · cases taken
  · cases taken
    rfl

theorem beginStop_eq_some_iff :
    pool.beginStop = some next ↔
      (pool.stopping = false ∧ pool.calls = []) ∧
        next = { pool with shuttingDown := true, stopping := true } := by
  rw [beginStop, Option.ite_none_right_eq_some, List.length_eq_zero_iff, Option.some.injEq,
    eq_comm (a := next)]

theorem endStop_eq_some_iff :
    pool.endStop = some next ↔
      (pool.stopping = true ∧ pool.connectionTxs = []) ∧
        next = { pool with stopping := false } := by
  rw [endStop, Option.ite_none_right_eq_some, Option.some.injEq, eq_comm (a := next)]

end ThreadPool

namespace Balancer

variable {balancer next : Balancer Stream Record Stats}

/-- The owners of senders and references, and the receivers. -/
structure Plumbed (balancer : Balancer Stream Record Stats) : Prop where
  wired : balancer.pool.Wired balancer.config.pool.perWorkerQueue.val
  dispatching : balancer.pool.Dispatching
  logSenders : balancer.log.senders =
    balancer.poolLogTx.toNat + balancer.contextLogTx.toNat + balancer.metricsThread.live +
      balancer.healthThread.live + balancer.logHandles
  metricsSenders : balancer.metrics.senders =
    balancer.poolMetricsTx.toNat + balancer.contextMetricsTx.toNat
  contextRefs : balancer.contextRefs =
    1 + balancer.pool.liveWorkers + balancer.contextHandles
  logReader : balancer.logThread = .exited → balancer.log.Closed
  metricsReader : balancer.metricsThread = .exited → balancer.metrics.Closed

theorem plumbed_trySendLog (plumbed : balancer.Plumbed) (record : Record) :
    (balancer.trySendLog record).Plumbed where
  wired := plumbed.wired
  dispatching := plumbed.dispatching
  logSenders := Channel.senders_trySendOrDrop.trans plumbed.logSenders
  metricsSenders := plumbed.metricsSenders
  contextRefs := plumbed.contextRefs
  logReader := fun exited => (plumbed.logReader exited).trySendOrDrop record
  metricsReader := plumbed.metricsReader

theorem plumbed_emitLog (plumbed : balancer.Plumbed) (record : Record) :
    (balancer.emitLog record).Plumbed := by
  unfold emitLog
  split
  · exact plumbed_trySendLog plumbed record
  · exact plumbed

theorem plumbed_recordMetrics (plumbed : balancer.Plumbed) (stats : Stats) :
    (balancer.recordMetrics stats).Plumbed := by
  unfold recordMetrics
  split
  · exact
      { plumbed with
        metricsSenders := Channel.senders_trySendOrDrop.trans plumbed.metricsSenders
        metricsReader := fun exited => (plumbed.metricsReader exited).trySendOrDrop stats }
  · exact plumbed

/-- A step of the pool in which no worker leaves its loop. -/
theorem plumbed_setPool {pool : ThreadPool Stream} (plumbed : balancer.Plumbed)
    (steps : ThreadPool.Steps balancer.pool pool)
    (sameWorkers : pool.liveWorkers = balancer.pool.liveWorkers) :
    { balancer with pool }.Plumbed :=
  { plumbed with
    wired := ThreadPool.wired_of_steps plumbed.wired steps
    dispatching := ThreadPool.dispatching_of_steps plumbed.dispatching steps
    contextRefs := by
      change balancer.contextRefs = 1 + pool.liveWorkers + balancer.contextHandles
      rw [sameWorkers]
      exact plumbed.contextRefs }

/-- What a step of a worker does to the balancer. -/
theorem work_cases {worker : Nat} (taken : balancer.work worker = some next) :
    ∃ pool lane, ThreadPool.Works balancer.pool worker pool ∧
      pool.lanes[worker]? = some lane ∧
      ((lane.worker = .exited ∧ pool.liveWorkers + 1 = balancer.pool.liveWorkers ∧
          next = { balancer with pool, contextRefs := balancer.contextRefs - 1 }) ∨
        (lane.worker ≠ .exited ∧ pool.liveWorkers = balancer.pool.liveWorkers ∧
          next = { balancer with pool })) := by
  unfold work at taken
  split at taken
  · cases taken
  case h_2 pool worked =>
      have works := ThreadPool.works_of_work worked
      obtain ⟨lane, found, outcome⟩ := ThreadPool.liveWorkers_of_works works
      refine ⟨pool, lane, works, found, ?_⟩
      rw [found] at taken
      obtain ⟨queue, step⟩ := lane
      rcases outcome with ⟨exited, fewer⟩ | ⟨stays, same⟩
      · cases exited
        cases taken
        exact .inl ⟨rfl, fewer, rfl⟩
      · right
        cases step with
        | exited => exact absurd rfl stays
        | receiving => cases taken; exact ⟨stays, same, rfl⟩
        | received stream => cases taken; exact ⟨stays, same, rfl⟩
        | refusing stream => cases taken; exact ⟨stays, same, rfl⟩
        | numbering stream => cases taken; exact ⟨stays, same, rfl⟩
        | handling req => cases taken; exact ⟨stays, same, rfl⟩

theorem plumbed_work {worker : Nat} (plumbed : balancer.Plumbed)
    (taken : balancer.work worker = some next) : next.Plumbed := by
  obtain ⟨pool, lane, works, found, ⟨_, fewer, rfl⟩ | ⟨_, same, rfl⟩⟩ := work_cases taken
  · exact
      { plumbed with
        wired := ThreadPool.wired_of_works plumbed.wired works
        dispatching := ThreadPool.dispatching_of_steps plumbed.dispatching (.work works)
        contextRefs := by
          have counted := plumbed.contextRefs
          change balancer.contextRefs - 1 = 1 + pool.liveWorkers + balancer.contextHandles
          omega }
  · exact plumbed_setPool plumbed (.work works) same

/-- The thread with one of the counted senders drops it. -/
theorem plumbed_metricsExit (plumbed : balancer.Plumbed)
    (waiting : balancer.metricsThread = .receiving)
    (answer : balancer.metrics.recv = .disconnected) :
    { balancer.dropLogTx with
      metrics := balancer.metrics.dropReceiver
      metricsThread := .exited }.Plumbed :=
  { plumbed with
    logSenders := by
      have counted := plumbed.logSenders
      rw [waiting] at counted
      change balancer.log.senders - 1 = balancer.poolLogTx.toNat +
        balancer.contextLogTx.toNat + 0 + balancer.healthThread.live + balancer.logHandles
      simp only [MetricsStep.live] at counted
      omega
    logReader := fun exited => (plumbed.logReader exited).dropSender
    metricsReader := fun _ => Channel.closed_dropReceiver answer }

/-- The aggregator stays in its loop. -/
theorem plumbed_metricsStep {step : MetricsStep Stats} (plumbed : balancer.Plumbed)
    (live : step.live = balancer.metricsThread.live) (stays : step ≠ .exited) :
    { balancer with metricsThread := step }.Plumbed :=
  { plumbed with
    logSenders := by
      rw [plumbed.logSenders, ← live]
    metricsReader := fun exited => absurd exited stays }

theorem plumbed_aggregate {record : Record} {due : Bool} (plumbed : balancer.Plumbed)
    (taken : balancer.aggregate record due = some next) : next.Plumbed := by
  unfold aggregate at taken
  split at taken
  case h_1 waiting =>
      split at taken
      case h_1 stats metrics answer =>
          cases taken
          have received := Channel.received_of_recv answer
          have received' : { balancer with metrics }.Plumbed :=
            { plumbed with
              metricsSenders := by rw [received.sameSenders, plumbed.metricsSenders]
              metricsReader := fun exited => by
                change balancer.metricsThread = _ at exited
                rw [waiting] at exited
                cases exited }
          exact plumbed_metricsStep received' (by rw [waiting]; rfl) nofun
      case h_2 answer =>
          cases taken
          exact plumbed_metricsExit plumbed waiting answer
      case h_3 => cases taken
  case h_2 stats aggregated =>
      cases taken
      refine plumbed_metricsStep (plumbed_trySendLog plumbed record) ?_ ?_
      · change _ = balancer.metricsThread.live
        rw [aggregated]
        split <;> rfl
      · split <;> exact nofun
  case h_3 reporting =>
      cases taken
      refine plumbed_metricsStep (plumbed_trySendLog plumbed record) ?_ nofun
      change _ = balancer.metricsThread.live
      rw [reporting]
      rfl
  case h_4 => cases taken

theorem plumbed_write (plumbed : balancer.Plumbed)
    (taken : balancer.write = some next) : next.Plumbed := by
  unfold write at taken
  split at taken
  · split at taken
    case h_1 record log answer =>
        cases taken
        have received := Channel.received_of_recv answer
        exact
          { plumbed with
            logSenders := received.sameSenders.trans plumbed.logSenders
            logReader := nofun }
    case h_2 answer =>
        cases taken
        exact { plumbed with logReader := fun _ => Channel.closed_dropReceiver answer }
    case h_3 => cases taken
  · cases taken
    exact { plumbed with logReader := nofun }
  · cases taken

/-- The health monitor stays in its loop. -/
theorem plumbed_healthStep {step : HealthStep} (plumbed : balancer.Plumbed)
    (live : step.live = balancer.healthThread.live) :
    { balancer with healthThread := step }.Plumbed :=
  { plumbed with logSenders := by rw [plumbed.logSenders, ← live] }

theorem plumbed_healthExit (plumbed : balancer.Plumbed)
    (live : balancer.healthThread.live = 1) :
    { balancer.dropLogTx with healthThread := .exited }.Plumbed :=
  { plumbed with
    logSenders := by
      have counted := plumbed.logSenders
      change balancer.log.senders - 1 = balancer.poolLogTx.toNat +
        balancer.contextLogTx.toNat + balancer.metricsThread.live + 0 + balancer.logHandles
      omega
    logReader := fun exited => (plumbed.logReader exited).dropSender }

theorem plumbed_probe {record : Option Record} (plumbed : balancer.Plumbed)
    (taken : balancer.probe record = some next) : next.Plumbed := by
  unfold probe at taken
  split at taken
  case h_1 looping =>
      split at taken
      · cases taken
        exact plumbed_healthExit plumbed (by rw [looping]; rfl)
      · cases taken
        exact plumbed_healthStep plumbed (by rw [looping]; rfl)
  case h_2 scanning =>
      cases taken
      exact plumbed_healthStep plumbed (by rw [scanning]; rfl)
  case h_3 addr addrs scanning =>
      split at taken
      · cases taken
        exact plumbed_healthExit plumbed (by rw [scanning]; rfl)
      · cases taken
        exact plumbed_healthStep plumbed (by rw [scanning]; rfl)
  case h_4 addrs probing =>
      split at taken
      · cases taken
        exact plumbed_healthStep plumbed (by rw [probing]; rfl)
      case h_2 record =>
          cases taken
          refine plumbed_healthStep (plumbed_trySendLog plumbed record) ?_
          change _ = balancer.healthThread.live
          rw [probing]
          rfl
  case h_5 remaining sleeping =>
      split at taken
      · cases taken
        exact plumbed_healthStep plumbed (by rw [sleeping]; rfl)
      · cases taken
        exact plumbed_healthStep plumbed (by rw [sleeping]; rfl)
  case h_6 => cases taken

theorem plumbed_clearSenders {run : ShutdownRun} {point : Point}
    (plumbed : balancer.Plumbed)
    (taken : balancer.clearSenders run point = some next) : next.Plumbed := by
  unfold clearSenders at taken
  split at taken
  · obtain ⟨pool, ended, rfl⟩ := Option.map_eq_some_iff.mp taken
    obtain ⟨⟨_, cleared⟩, rfl⟩ := ThreadPool.endStop_eq_some_iff.mp ended
    have stopped := plumbed_setPool plumbed (.endStop cleared) rfl
    exact { stopped with }
  · obtain ⟨pool, dropped, rfl⟩ := Option.map_eq_some_iff.mp taken
    obtain ⟨worker, lane, rest, drops⟩ := ThreadPool.dropsSender_of_dropSender dropped
    exact plumbed_setPool plumbed (.dropSender drops)
      (ThreadPool.liveWorkers_of_dropsSender drops)

theorem plumbed_beginStop {pool : ThreadPool Stream} (plumbed : balancer.Plumbed)
    (begun : balancer.pool.beginStop = some pool) : { balancer with pool }.Plumbed := by
  obtain ⟨⟨_, free⟩, rfl⟩ := ThreadPool.beginStop_eq_some_iff.mp begun
  exact plumbed_setPool plumbed (.beginStop free) rfl

theorem plumbed_detach (plumbed : balancer.Plumbed) : balancer.detach.Plumbed := by
  unfold detach
  split
  · exact
      { plumbed with
        logSenders := by
          have counted := plumbed.logSenders
          rw [Channel.senders_dropSenderIf, Bool.toNat_false]
          dsimp only
          omega
        metricsSenders := by
          have counted := plumbed.metricsSenders
          rw [Channel.senders_dropSenderIf, Bool.toNat_false]
          dsimp only
          omega
        logReader := fun exited => (plumbed.logReader exited).dropSenderIf _
        metricsReader := fun exited => (plumbed.metricsReader exited).dropSenderIf _ }
  · exact plumbed

theorem plumbed_dropMetricsTx (plumbed : balancer.Plumbed) :
    { balancer with
      metrics := balancer.metrics.dropSenderIf balancer.poolMetricsTx
      poolMetricsTx := false }.Plumbed :=
  { plumbed with
    metricsSenders := by
      have counted := plumbed.metricsSenders
      rw [Channel.senders_dropSenderIf, Bool.toNat_false]
      dsimp only
      omega
    metricsReader := fun exited => (plumbed.metricsReader exited).dropSenderIf _ }

theorem plumbed_dropPoolLogTx (plumbed : balancer.Plumbed) :
    { balancer with
      log := balancer.log.dropSenderIf balancer.poolLogTx
      poolLogTx := false }.Plumbed :=
  { plumbed with
    logSenders := by
      have counted := plumbed.logSenders
      rw [Channel.senders_dropSenderIf, Bool.toNat_false]
      dsimp only
      omega
    logReader := fun exited => (plumbed.logReader exited).dropSenderIf _ }

theorem plumbed_join {thread : Thread} {run : ShutdownRun} (plumbed : balancer.Plumbed)
    (taken : balancer.join thread run = some next) : next.Plumbed := by
  unfold join at taken
  split at taken
  · cases taken
    exact { plumbed with }
  · cases taken

theorem plumbed_shutdownStep {run : ShutdownRun} {snapshot : Record}
    (plumbed : balancer.Plumbed)
    (taken : balancer.shutdownStep run snapshot = some next) : next.Plumbed := by
  unfold shutdownStep at taken
  cases point : run.point <;> simp only [point] at taken
  case signal =>
      cases taken
      have signalled := plumbed_setPool plumbed .signal rfl
      exact { signalled with }
  case stopHealth =>
      cases taken
      exact { plumbed with }
  case joinHealth =>
      split at taken
      · obtain ⟨joined, hasJoined, rfl⟩ := Option.map_eq_some_iff.mp taken
        exact { plumbed_join plumbed hasJoined with }
      · cases taken
        exact { plumbed with }
  case stopAccepting =>
      obtain ⟨pool, begun, rfl⟩ := Option.map_eq_some_iff.mp taken
      exact { plumbed_beginStop plumbed begun with }
  case clearing => exact plumbed_clearSenders plumbed taken
  case grace =>
      cases taken
      exact { plumbed with }
  case stopThreads =>
      obtain ⟨pool, begun, rfl⟩ := Option.map_eq_some_iff.mp taken
      exact { plumbed_beginStop plumbed begun with }
  case clearingThreads => exact plumbed_clearSenders plumbed taken
  case takeHandles =>
      cases taken
      exact { plumbed with }
  case joinWorkers =>
      split at taken
      · cases taken
        exact { plumbed with }
      · exact plumbed_join plumbed taken
  case detach =>
      cases taken
      exact { plumbed_detach plumbed with }
  case dropMetricsTx =>
      cases taken
      exact { plumbed_dropMetricsTx plumbed with }
  case joinMetrics =>
      split at taken
      · exact plumbed_join plumbed taken
      · cases taken
        exact { plumbed with }
  case shutdownLog =>
      cases taken
      split
      · exact { plumbed_trySendLog plumbed snapshot with }
      · exact { plumbed with }
  case dropLogTx =>
      cases taken
      exact { plumbed_dropPoolLogTx plumbed with }
  case joinLog =>
      split at taken
      · exact plumbed_join plumbed taken
      · cases taken
        exact { plumbed with }
  case returned =>
      split at taken
      · cases taken
        exact { plumbed with }
      · cases taken

theorem plumbed_cloneLogSender (plumbed : balancer.Plumbed)
    (held : balancer.poolLogTx = true ∨ 0 < balancer.logHandles) :
    { balancer with
      log := balancer.log.cloneSender
      logHandles := balancer.logHandles + 1 }.Plumbed :=
  { plumbed with
    logSenders := by
      have counted := plumbed.logSenders
      rw [Channel.senders_cloneSender]
      dsimp only
      omega
    logReader := fun exited => by
      -- a sender is left, so the writer is in its loop
      have counted := plumbed.logSenders
      have closed := (plumbed.logReader exited).noSender
      rcases held with pool | handle
      · rw [pool, Bool.toNat_true] at counted
        omega
      · omega }

theorem plumbed_step [DecidableEq Stream] :
    machine.Preserves (Plumbed : Balancer Stream Record Stats → Prop) := by
  intro balancer action next plumbed taken
  cases action with
  | submit stream =>
      simp only [machine, step] at taken
      split at taken
      · cases taken
      · obtain ⟨pool, entered, rfl⟩ := Option.map_eq_some_iff.mp taken
        have submitted : balancer.pool.step (.submit stream) = some pool := entered
        refine plumbed_setPool plumbed (ThreadPool.steps_of_step submitted) ?_
        rw [ThreadPool.liveWorkers, ThreadPool.lanes_of_enterSubmit entered]
        rfl
  | advance call =>
      obtain ⟨pool, advanced, rfl⟩ := Option.map_eq_some_iff.mp taken
      have advances := ThreadPool.advances_of_advance advanced
      exact plumbed_setPool plumbed (.advance advances)
        (ThreadPool.liveWorkers_of_advances advances)
  | work worker => exact plumbed_work plumbed taken
  | emitLog user record =>
      simp only [machine, step] at taken
      split at taken
      · cases taken
        exact plumbed_emitLog plumbed record
      · cases taken
  | recordMetrics user stats =>
      simp only [machine, step] at taken
      split at taken
      · cases taken
        exact plumbed_recordMetrics plumbed stats
      · cases taken
  | cloneContext =>
      simp only [machine, step] at taken
      split at taken
      · cases taken
        exact
          { plumbed with
            contextRefs := by
              have counted := plumbed.contextRefs
              dsimp only
              omega }
      · cases taken
  | dropContext =>
      simp only [machine, step] at taken
      split at taken
      · cases taken
        exact
          { plumbed with
            contextRefs := by
              have counted := plumbed.contextRefs
              dsimp only
              omega }
      · cases taken
  | cloneLogSender =>
      simp only [machine, step] at taken
      split at taken
      case isTrue held =>
          cases taken
          exact plumbed_cloneLogSender plumbed (held.imp_left And.right)
      case isFalse => cases taken
  | dropLogSender =>
      simp only [machine, step] at taken
      split at taken
      · cases taken
        exact
          { plumbed with
            logSenders := by
              have counted := plumbed.logSenders
              change balancer.log.senders - 1 = balancer.poolLogTx.toNat +
                balancer.contextLogTx.toNat + balancer.metricsThread.live +
                  balancer.healthThread.live + (balancer.logHandles - 1)
              omega
            logReader := fun exited => (plumbed.logReader exited).dropSender }
      · cases taken
  | sendLog record =>
      simp only [machine, step] at taken
      split at taken
      · cases taken
        exact plumbed_trySendLog plumbed record
      · cases taken
  | aggregate record due => exact plumbed_aggregate plumbed taken
  | write => exact plumbed_write plumbed taken
  | probe record => exact plumbed_probe plumbed taken
  | beginShutdown kind =>
      simp only [machine, step, beginShutdown] at taken
      split at taken
      · cases taken
        exact { plumbed with }
      · cases taken
  | own snapshot =>
      simp only [machine, step] at taken
      split at taken
      · cases taken
      · exact plumbed_shutdownStep plumbed taken

end Balancer

end Mzani
