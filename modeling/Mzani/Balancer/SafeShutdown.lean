import Mzani.Balancer.Shutdown

/-!
# Shutdown joins threads that can exit

A join waits only for a thread whose channel has lost all its senders.  Such a
thread is never blocked, and under every schedule it takes only so many steps
before it exits.
-/

namespace Mzani

open Support

variable {Stream Record Stats : Type}

/-- The steps of a thread. -/
def Action.isOf : Thread → Action Stream Record Stats → Bool
  | .worker worker, .work other => worker == other
  | .metrics, .aggregate _ _ => true
  | .log, .write => true
  | .health, .probe _ => true
  | _, _ => false

/-- Steps that a worker has at most before it needs the next stream. -/
def WorkerStep.left : WorkerStep Stream → Nat
  | .receiving => 1
  | .received _ => 4
  | .refusing _ => 2
  | .numbering _ => 3
  | .handling _ => 2
  | .exited => 0

def MetricsStep.left : MetricsStep Stats → Nat
  | .receiving => 1
  | .aggregated _ => 3
  | .reporting => 2
  | .exited => 0

def LogStep.left : LogStep Record → Nat
  | .receiving => 1
  | .writing _ => 2
  | .exited => 0

/-- Steps that the monitor has left once it has been told to stop. -/
def HealthStep.left : HealthStep → Nat
  | .looping => 1
  | .scanning _ => 3
  | .probing _ => 4
  | .sleeping _ => 2
  | .exited => 0

namespace Balancer

variable {balancer next : Balancer Stream Record Stats} {run : ShutdownRun}

/-- The thread that the owner joins now. -/
def joining (balancer : Balancer Stream Record Stats) (run : ShutdownRun) :
    Option Thread :=
  match run.point with
  | .joinHealth => if balancer.healthHandle = true then some .health else none
  | .joinWorkers => run.workers.head?.map .worker
  | .joinMetrics => if run.metrics = true then some .metrics else none
  | .joinLog => if run.log = true then some .log else none
  | _ => none

/-- Nobody has a sender of the channel that the thread reads; the monitor reads
no channel and has been told to stop. -/
def Abandoned (balancer : Balancer Stream Record Stats) : Thread → Prop
  | .worker worker =>
      balancer.pool.connectionTxs = [] ∧
        ∃ lane, balancer.pool.lanes[worker]? = some lane ∧ lane.queue.senders = 0
  | .metrics =>
      balancer.metrics.senders = 0 ∧ balancer.poolMetricsTx = false ∧
        balancer.contextMetricsTx = false ∧
        ∀ worker < balancer.pool.lanes.length, balancer.pool.Gone worker
  | .log =>
      balancer.log.senders = 0 ∧ balancer.poolLogTx = false ∧
        balancer.contextLogTx = false ∧ balancer.metricsThread = .exited ∧
        balancer.healthThread = .exited
  | .health => balancer.healthStop = true

/-- What the thread's channel has accepted has been received. -/
def AllReceived (balancer : Balancer Stream Record Stats) : Thread → Prop
  | .worker worker =>
      ∃ lane, balancer.pool.lanes[worker]? = some lane ∧
        lane.queue.accepted = lane.queue.received
  | .metrics => balancer.metrics.accepted = balancer.metrics.received
  | .log => balancer.log.accepted = balancer.log.received
  | .health => True

/-- Steps that the thread has left at most, if nothing more is sent to it. -/
def left (balancer : Balancer Stream Record Stats) : Thread → Nat
  | .worker worker =>
      match balancer.pool.lanes[worker]? with
      | some lane => 5 * lane.queue.queue.length + lane.worker.left
      | none => 0
  | .metrics => 3 * balancer.metrics.queue.length + balancer.metricsThread.left
  | .log => 2 * balancer.log.queue.length + balancer.logThread.left
  | .health => balancer.healthThread.left

/-! ## Before the sequence -/

/-- What holds until a shutdown sequence begins. -/
structure Serving (balancer : Balancer Stream Record Stats) : Prop where
  handles : balancer.handles = .log :: .metrics ::
    (List.range balancer.pool.lanes.length).map .worker
  stopping : balancer.pool.stopping = false
  healthHandle : balancer.healthHandle = true
  joined : balancer.joined = []

theorem Serving.of_same (serving : balancer.Serving)
    (handles : next.handles = balancer.handles)
    (workers : next.pool.lanes.length = balancer.pool.lanes.length)
    (stopping : next.pool.stopping = balancer.pool.stopping)
    (healthHandle : next.healthHandle = balancer.healthHandle)
    (joined : next.joined = balancer.joined) : next.Serving where
  handles := by rw [handles, workers, serving.handles]
  stopping := stopping.trans serving.stopping
  healthHandle := healthHandle.trans serving.healthHandle
  joined := joined.trans serving.joined

theorem Serving.undisturbed (serving : balancer.Serving)
    (undisturbed : Undisturbed balancer next) : next.Serving :=
  serving.of_same undisturbed.handles undisturbed.keeps.pool.workers undisturbed.stopping
    undisturbed.healthHandle undisturbed.joined

theorem stopping_of_advances {pool after : ThreadPool Stream} {number : Nat}
    (advances : ThreadPool.Advances pool number after) : after.stopping = pool.stopping := by
  cases advances <;> rfl

theorem stopping_of_enterSubmit [DecidableEq Stream] {pool after : ThreadPool Stream}
    {stream : Stream} (taken : pool.enterSubmit stream = some after) :
    after.stopping = pool.stopping := by
  unfold ThreadPool.enterSubmit at taken
  split at taken
  · cases taken
  split at taken
  · split at taken
    · cases taken
      rfl
    · cases taken
  · cases taken
    rfl

theorem stays_shutdownStep {snapshot : Record}
    (taken : balancer.shutdownStep run snapshot = some next)
    (running : balancer.run = some run) : next.run ≠ none := by
  have joins {thread : Thread} {run' : ShutdownRun}
      {after : Balancer Stream Record Stats}
      (hasJoined : balancer.join thread run' = some after) : after.run ≠ none := by
    rw [(join_eq_some_iff.mp hasJoined).2]
    exact nofun
  have clears {point : Point} {after : Balancer Stream Record Stats}
      (cleared : balancer.clearSenders run point = some after) : after.run ≠ none := by
    unfold clearSenders at cleared
    split at cleared
    · obtain ⟨pool, _, rfl⟩ := Option.map_eq_some_iff.mp cleared
      exact nofun
    · obtain ⟨pool, _, rfl⟩ := Option.map_eq_some_iff.mp cleared
      rw [running]
      exact nofun
  unfold Balancer.shutdownStep at taken
  cases point : run.point <;> simp only [point] at taken
  case stopAccepting =>
      obtain ⟨pool, _, rfl⟩ := Option.map_eq_some_iff.mp taken
      exact nofun
  case stopThreads =>
      obtain ⟨pool, _, rfl⟩ := Option.map_eq_some_iff.mp taken
      exact nofun
  case clearing => exact clears taken
  case clearingThreads => exact clears taken
  case joinHealth =>
      split at taken
      · obtain ⟨joined, hasJoined, rfl⟩ := Option.map_eq_some_iff.mp taken
        change joined.run ≠ none
        exact joins hasJoined
      · cases taken
        exact nofun
  case joinWorkers =>
      split at taken
      · cases taken
        exact nofun
      · exact joins taken
  case joinMetrics =>
      split at taken
      · exact joins taken
      · cases taken
        exact nofun
  case joinLog =>
      split at taken
      · exact joins taken
      · cases taken
        exact nofun
  case returned =>
      split at taken
      · cases taken
        exact nofun
      · cases taken
  all_goals
    cases taken
    exact nofun

/-- A step after which no sequence has begun. -/
theorem Serving.step [DecidableEq Stream] {action : Action Stream Record Stats}
    (taken : balancer.step action = some next) (idle : next.run = none) :
    balancer.run = none ∧ (balancer.Serving → next.Serving) := by
  have others (undisturbed : Undisturbed balancer next) :
      balancer.run = none ∧ (balancer.Serving → next.Serving) :=
    ⟨undisturbed.run.symm.trans idle, fun serving => serving.undisturbed undisturbed⟩
  cases action with
  | submit stream =>
      simp only [Balancer.step] at taken
      split at taken
      · cases taken
      · obtain ⟨pool, entered, rfl⟩ := Option.map_eq_some_iff.mp taken
        refine ⟨idle, fun serving => serving.of_same rfl ?_ ?_ rfl rfl⟩
        · exact congrArg List.length (ThreadPool.lanes_of_enterSubmit entered)
        · exact stopping_of_enterSubmit entered
  | advance call =>
      obtain ⟨pool, advanced, rfl⟩ := Option.map_eq_some_iff.mp taken
      have advances := ThreadPool.advances_of_advance advanced
      exact ⟨idle, fun serving => serving.of_same rfl
        (ThreadPool.keeps_of_advances advances).workers (stopping_of_advances advances) rfl rfl⟩
  | work worker => exact others (undisturbed_work taken)
  | emitLog user record =>
      simp only [Balancer.step] at taken
      split at taken
      · cases taken
        exact others (undisturbed_emitLog record)
      · cases taken
  | recordMetrics user stats =>
      simp only [Balancer.step] at taken
      split at taken
      · cases taken
        exact others (undisturbed_recordMetrics stats)
      · cases taken
  | cloneContext | dropContext | cloneLogSender | dropLogSender | sendLog =>
      simp only [Balancer.step] at taken
      split at taken
      · cases taken
        exact ⟨idle, fun serving => serving.of_same rfl rfl rfl rfl rfl⟩
      · cases taken
  | aggregate record due => exact others (undisturbed_aggregate taken)
  | write => exact others (undisturbed_write taken)
  | probe record => exact others (undisturbed_probe taken)
  | beginShutdown kind =>
      simp only [Balancer.step, beginShutdown] at taken
      split at taken
      · cases taken
        cases idle
      · cases taken
  | own snapshot =>
      simp only [Balancer.step] at taken
      split at taken
      · cases taken
      case h_2 run running => exact absurd idle (stays_shutdownStep taken running)

/-- A state of a balancer that has been built. -/
inductive Reached [DecidableEq Stream] : Balancer Stream Record Stats → Prop where
  | build {config : BalancerConfig} {logger : MzaniResult Unit} {startup : Record}
      {balancer : Balancer Stream Record Stats} :
      Balancer.build config logger startup = .ok balancer → Reached balancer
  | step {balancer next : Balancer Stream Record Stats}
      {action : Action Stream Record Stats} :
      Reached balancer → balancer.step action = some next → Reached next

/-- A state of `Balancer::shutdown`, or of the drop of a balancer, that began
when no clone of the context or of the log sender was held. -/
inductive InShutdown [DecidableEq Stream] : Balancer Stream Record Stats → Prop where
  | begin {balancer next : Balancer Stream Record Stats} {kind : ShutdownKind} :
      Reached balancer → balancer.contextHandles = 0 → balancer.logHandles = 0 →
      balancer.beginShutdown kind = some next → InShutdown next
  | step {balancer next : Balancer Stream Record Stats}
      {action : Action Stream Record Stats} :
      InShutdown balancer → balancer.step action = some next → InShutdown next

theorem liveWorkers_spawn {config : PoolConfig} {positive : 0 < config.perWorkerQueue.val}
    {flag : Bool} :
    (ThreadPool.spawn config positive flag : ThreadPool Stream).liveWorkers =
      config.workers.val := by
  simp [ThreadPool.liveWorkers, ThreadPool.spawn, WorkerStep.live]

theorem build_ok {config : BalancerConfig} {logger : MzaniResult Unit} {startup : Record}
    (built : build config logger startup = .ok balancer) :
    balancer.Plumbed ∧ balancer.Serving := by
  unfold build at built
  split at built
  · cases built
  dsimp only at built
  split at built
  · cases built
  case h_2 pool spawned =>
      cases built
      obtain ⟨positive, rfl⟩ := ThreadPool.new_ok spawned
      refine ⟨?_, ⟨?_, rfl, rfl, rfl⟩⟩
      · exact
          { wired := ThreadPool.wired_spawn
            dispatching := ThreadPool.dispatching_spawn
            logSenders := by simp [Channel.sync, MetricsStep.live, HealthStep.live]
            metricsSenders := rfl
            contextRefs := by
              rw [liveWorkers_spawn]
              rfl
            logReader := nofun
            metricsReader := nofun }
      · rw [ThreadPool.spawn, List.length_replicate]

theorem Reached.invariant [DecidableEq Stream] (reached : Reached balancer) :
    balancer.Plumbed ∧ (balancer.run = none → balancer.Serving) := by
  induction reached with
  | build built => exact (build_ok built).imp_right fun serving _ => serving
  | step before taken ih =>
      refine ⟨plumbed_step ih.1 taken, fun idle => ?_⟩
      obtain ⟨wasIdle, serves⟩ := Serving.step taken idle
      exact serves (ih.2 wasIdle)

theorem InShutdown.inRun [DecidableEq Stream] (inShutdown : InShutdown balancer) :
    ∃ run, InRun balancer run := by
  induction inShutdown with
  | @begin balancer next kind reached noContext noLog begun =>
      obtain ⟨plumbed, serves⟩ := reached.invariant
      have taken : machine.step balancer (.beginShutdown kind) = some next := begun
      have plumbed' : next.Plumbed := plumbed_step plumbed taken
      unfold beginShutdown at begun
      split at begun
      case isFalse => cases begun
      case isTrue free =>
          obtain ⟨idle, noCall, first⟩ := free
          cases begun
          have serving := serves idle
          refine ⟨_,
            { running := rfl
              plumbed := plumbed'
              alone := ⟨noContext, noLog, List.length_eq_zero_iff.mp noCall⟩
              established := fun point past => ?_
              untaken := fun _ => ⟨rfl, rfl, rfl⟩
              stopping := iff_of_false (by rw [serving.stopping]; nofun) (by simp)
              held := fun thread spawned => .inl ?_
              spawned := fun thread holds => ?_
              joined := fun thread member => ?_ }⟩
          · rcases past with again | before
            · exact absurd again first
            · exact absurd before (Nat.not_lt_zero _)
          · cases thread with
            | worker worker =>
                refine .inl ?_
                change worker < balancer.pool.lanes.length at spawned
                rw [serving.handles]
                simpa using spawned
            | metrics =>
                refine .inl ?_
                rw [serving.handles]
                simp
            | log =>
                refine .inl ?_
                rw [serving.handles]
                simp
            | health => exact serving.healthHandle
          · cases thread with
            | worker worker =>
                rcases holds with held | taken
                · change Thread.worker worker ∈ balancer.handles at held
                  change worker < balancer.pool.lanes.length
                  rw [serving.handles] at held
                  simpa using held
                · cases taken
            | _ => trivial
          · rw [serving.joined] at member
            cases member
  | step before taken ih =>
      obtain ⟨run, inRun⟩ := ih
      exact inRun.step taken

/-! ## A join -/

/-- The statement before which the owner joins the thread. -/
inductive Joins (balancer : Balancer Stream Record Stats) (run : ShutdownRun) :
    Thread → Prop where
  | health : run.point = .joinHealth → balancer.healthHandle = true →
      Joins balancer run .health
  | worker {worker : Nat} {rest : List Nat} :
      run.point = .joinWorkers → run.workers = worker :: rest →
      Joins balancer run (.worker worker)
  | metrics : run.point = .joinMetrics → run.metrics = true → Joins balancer run .metrics
  | log : run.point = .joinLog → run.log = true → Joins balancer run .log

theorem joins_of_joining {thread : Thread} (joins : balancer.joining run = some thread) :
    Joins balancer run thread := by
  unfold joining at joins
  split at joins
  case h_1 point =>
      split at joins
      case isTrue held =>
          cases joins
          exact .health point held
      case isFalse => cases joins
  case h_2 point =>
      obtain ⟨worker, first, rfl⟩ := Option.map_eq_some_iff.mp joins
      obtain ⟨rest, handles⟩ := List.head?_eq_some_iff.mp first
      exact .worker point handles
  case h_3 point =>
      split at joins
      case isTrue held =>
          cases joins
          exact .metrics point held
      case isFalse => cases joins
  case h_4 point =>
      split at joins
      case isTrue held =>
          cases joins
          exact .log point held
      case isFalse => cases joins
  case h_5 => cases joins

theorem Joins.holdsHandle {thread : Thread} (joins : Joins balancer run thread) :
    balancer.HoldsHandle run thread := by
  cases joins with
  | health _ held => exact held
  | worker _ handles =>
      refine .inr ?_
      rw [handles]
      exact List.mem_cons_self
  | metrics _ held => exact .inr held
  | log _ held => exact .inr held

/-- By the time a thread is joined its channel has lost all its senders. -/
theorem InRun.abandoned {thread : Thread} (inRun : InRun balancer run)
    (joins : Joins balancer run thread) : balancer.Abandoned thread := by
  have spawned := inRun.spawned thread joins.holdsHandle
  cases joins with
  | health point => exact inRun.established .stopHealth (.inr (by rw [point]; decide))
  | @worker worker rest point =>
      have cleared : balancer.pool.connectionTxs = [] :=
        inRun.established .clearingThreads (.inr (by rw [point]; decide))
      have found := List.getElem?_eq_getElem spawned
      refine ⟨cleared, _, found, ?_⟩
      rw [(inRun.plumbed.wired found).senders, cleared]
      rfl
  | metrics point =>
      have pool : balancer.poolMetricsTx = false :=
        inRun.established .dropMetricsTx (.inr (by rw [point]; decide))
      have context : balancer.contextLogTx = false ∧ balancer.contextMetricsTx = false :=
        inRun.established .detach (.inr (by rw [point]; decide))
      refine ⟨?_, pool, context.2, fun worker =>
        inRun.workers_gone (.inr (by rw [point]; decide))⟩
      rw [inRun.plumbed.metricsSenders, pool, context.2]
      rfl
  | log point =>
      have pool : balancer.poolLogTx = false :=
        inRun.established .dropLogTx (.inr (by rw [point]; decide))
      have context : balancer.contextLogTx = false ∧ balancer.contextMetricsTx = false :=
        inRun.established .detach (.inr (by rw [point]; decide))
      have aggregator := inRun.metrics_exited (.inr (by rw [point]; decide))
      have monitor := inRun.health_exited (.inr (by rw [point]; decide))
      refine ⟨?_, pool, context.1, aggregator, monitor⟩
      rw [inRun.plumbed.logSenders, pool, context.1, aggregator, monitor,
        inRun.alone.logHandles]
      rfl

/-- While the thread runs, the owner waits. -/
theorem Joins.waits {thread : Thread} {snapshot : Record} (joins : Joins balancer run thread)
    (running : balancer.hasExited thread = false) :
    balancer.shutdownStep run snapshot = none := by
  cases joins with
  | health point held => simp [shutdownStep, point, held, join, running]
  | worker point handles => simp [shutdownStep, point, handles, join, running]
  | metrics point held => simp [shutdownStep, point, held, join, running]
  | log point held => simp [shutdownStep, point, held, join, running]

/-- Once the thread has exited, its join returns. -/
theorem Joins.returns {thread : Thread} {snapshot : Record}
    (joins : Joins balancer run thread) (exited : balancer.hasExited thread = true) :
    ∃ next, balancer.shutdownStep run snapshot = some next := by
  cases joins with
  | health point held => simp [shutdownStep, point, held, join, exited]
  | worker point handles => simp [shutdownStep, point, handles, join, exited]
  | metrics point held => simp [shutdownStep, point, held, join, exited]
  | log point held => simp [shutdownStep, point, held, join, exited]

theorem Joins.of_undisturbed {thread : Thread} (joins : Joins balancer run thread)
    (undisturbed : Undisturbed balancer next) : Joins next run thread := by
  cases joins with
  | health point held => exact .health point (undisturbed.healthHandle.trans held)
  | worker point handles => exact .worker point handles
  | metrics point held => exact .metrics point held
  | log point held => exact .log point held

/-! ## The joined thread -/

theorem enabled_worker {worker : Nat} {lane : Lane Stream}
    (found : balancer.pool.lanes[worker]? = some lane) (gone : lane.queue.senders = 0)
    (running : lane.worker ≠ .exited) : ∃ next, balancer.work worker = some next := by
  have worked : ∃ pool, balancer.pool.work worker = some pool := by
    unfold ThreadPool.work
    rw [found]
    dsimp only
    cases step : lane.worker with
    | receiving =>
        cases answer : lane.queue.recv with
        | item stream queue => exact ⟨_, rfl⟩
        | disconnected => exact ⟨_, rfl⟩
        | blocked => exact absurd answer (Channel.recv_ne_blocked gone)
    | received stream =>
        dsimp only
        split <;> exact ⟨_, rfl⟩
    | refusing stream => exact ⟨_, rfl⟩
    | numbering stream => exact ⟨_, rfl⟩
    | handling req => exact ⟨_, rfl⟩
    | exited => exact absurd step running
  obtain ⟨pool, worked⟩ := worked
  unfold work
  rw [worked]
  dsimp only
  split <;> exact ⟨_, rfl⟩

theorem enabled_metrics (record : Record) (gone : balancer.metrics.senders = 0)
    (running : balancer.metricsThread ≠ .exited) :
    ∃ next, balancer.aggregate record false = some next := by
  unfold aggregate
  cases step : balancer.metricsThread with
  | receiving =>
      cases answer : balancer.metrics.recv with
      | item stats metrics => exact ⟨_, rfl⟩
      | disconnected => exact ⟨_, rfl⟩
      | blocked => exact absurd answer (Channel.recv_ne_blocked gone)
  | aggregated stats => exact ⟨_, rfl⟩
  | reporting => exact ⟨_, rfl⟩
  | exited => exact absurd step running

theorem enabled_log (gone : balancer.log.senders = 0)
    (running : balancer.logThread ≠ .exited) : ∃ next, balancer.write = some next := by
  unfold write
  cases step : balancer.logThread with
  | receiving =>
      cases answer : balancer.log.recv with
      | item record log => exact ⟨_, rfl⟩
      | disconnected => exact ⟨_, rfl⟩
      | blocked => exact absurd answer (Channel.recv_ne_blocked gone)
  | writing record => exact ⟨_, rfl⟩
  | exited => exact absurd step running

theorem enabled_health (running : balancer.healthThread ≠ .exited) :
    ∃ next, balancer.probe none = some next := by
  unfold probe
  cases step : balancer.healthThread with
  | looping =>
      dsimp only
      split <;> exact ⟨_, rfl⟩
  | scanning addrs =>
      cases addrs with
      | nil => exact ⟨_, rfl⟩
      | cons addr addrs =>
          dsimp only
          split <;> exact ⟨_, rfl⟩
  | probing addrs => exact ⟨_, rfl⟩
  | sleeping remaining =>
      dsimp only
      split <;> exact ⟨_, rfl⟩
  | exited => exact absurd step running

/-- An abandoned thread is never blocked. -/
theorem enabled_of_abandoned [DecidableEq Stream] {thread : Thread} (record : Record)
    (abandoned : balancer.Abandoned thread) (running : balancer.hasExited thread = false) :
    ∃ action next, action.isOf thread = true ∧ balancer.step action = some next := by
  cases thread with
  | worker worker =>
      obtain ⟨_, lane, found, gone⟩ := abandoned
      have stays : lane.worker ≠ .exited := fun exited => by
        rw [hasExited_worker_iff.mpr ⟨lane, found, exited⟩] at running
        cases running
      obtain ⟨next, taken⟩ := enabled_worker found gone stays
      exact ⟨.work worker, next, beq_self_eq_true worker, taken⟩
  | metrics =>
      have stays : balancer.metricsThread ≠ .exited := fun exited => by
        rw [hasExited_metrics_iff.mpr exited] at running
        cases running
      obtain ⟨next, taken⟩ := enabled_metrics record abandoned.1 stays
      exact ⟨.aggregate record false, next, rfl, taken⟩
  | log =>
      have stays : balancer.logThread ≠ .exited := fun exited => by
        rw [hasExited_log_iff.mpr exited] at running
        cases running
      obtain ⟨next, taken⟩ := enabled_log abandoned.1 stays
      exact ⟨.write, next, rfl, taken⟩
  | health =>
      have stays : balancer.healthThread ≠ .exited := fun exited => by
        rw [hasExited_health_iff.mpr exited] at running
        cases running
      obtain ⟨next, taken⟩ := enabled_health stays
      exact ⟨.probe none, next, rfl, taken⟩

theorem left_works {pool after : ThreadPool Stream} {worker : Nat}
    (works : ThreadPool.Works pool worker after) :
    ∃ lane lane', pool.lanes[worker]? = some lane ∧ after.lanes = pool.lanes.set worker lane' ∧
      5 * lane'.queue.queue.length + lane'.worker.left <
        5 * lane.queue.queue.length + lane.worker.left := by
  cases works with
  | @receive lane stream queue found waiting received =>
      refine ⟨lane, _, found, rfl, ?_⟩
      rw [received.queue, waiting, List.length_cons]
      simp only [WorkerStep.left]
      omega
  | @exit lane found waiting =>
      refine ⟨lane, _, found, rfl, ?_⟩
      rw [waiting]
      exact Nat.lt_succ_self _
  | @refuse lane stream found holds =>
      refine ⟨lane, _, found, rfl, ?_⟩
      rw [holds]
      simp only [WorkerStep.left]
      omega
  | @accept lane stream found holds =>
      refine ⟨lane, _, found, rfl, ?_⟩
      rw [holds]
      simp only [WorkerStep.left]
      omega
  | @answer lane stream found holds =>
      refine ⟨lane, _, found, rfl, ?_⟩
      rw [holds]
      exact Nat.lt_succ_self _
  | @handle lane stream found holds =>
      refine ⟨lane, _, found, rfl, ?_⟩
      rw [holds]
      exact Nat.lt_succ_self _
  | @finish lane req found holds =>
      refine ⟨lane, _, found, rfl, ?_⟩
      rw [holds]
      exact Nat.lt_succ_self _

/-- A step of a worker brings it closer to its end and concerns no other
thread. -/
theorem left_work {worker : Nat} (taken : balancer.work worker = some next)
    (thread : Thread) :
    (thread = .worker worker ∧ next.left thread < balancer.left thread) ∨
      (thread ≠ .worker worker ∧ next.left thread = balancer.left thread) := by
  obtain ⟨pool, _, works, _, outcome⟩ := work_cases taken
  obtain ⟨lane, lane', found, lanes, closer⟩ := left_works works
  have samePool : next.pool = pool := by
    rcases outcome with ⟨_, _, rfl⟩ | ⟨_, _, rfl⟩ <;> rfl
  have sameRest : next.left .metrics = balancer.left .metrics ∧
      next.left .log = balancer.left .log ∧ next.left .health = balancer.left .health := by
    rcases outcome with ⟨_, _, rfl⟩ | ⟨_, _, rfl⟩ <;> exact ⟨rfl, rfl, rfl⟩
  cases thread with
  | worker other =>
      simp only [left, samePool, lanes]
      by_cases same : other = worker
      · subst same
        have bound := (List.getElem?_eq_some_iff.mp found).1
        refine .inl ⟨rfl, ?_⟩
        rw [List.getElem?_set_self bound, found]
        exact closer
      · refine .inr ⟨fun eq => same (Thread.worker.inj eq), ?_⟩
        rw [List.getElem?_set_ne (Ne.symm same)]
  | metrics => exact .inr ⟨nofun, sameRest.1⟩
  | log => exact .inr ⟨nofun, sameRest.2.1⟩
  | health => exact .inr ⟨nofun, sameRest.2.2⟩

theorem left_aggregate {record : Record} {due : Bool}
    (taken : balancer.aggregate record due = some next) :
    next.left .metrics < balancer.left .metrics ∧ next.pool = balancer.pool ∧
      next.healthThread = balancer.healthThread := by
  unfold aggregate at taken
  split at taken
  case h_1 waiting =>
      split at taken
      case h_1 stats metrics answer =>
          cases taken
          refine ⟨?_, rfl, rfl⟩
          simp only [left, waiting, (Channel.received_of_recv answer).queue, List.length_cons,
            MetricsStep.left]
          omega
      case h_2 =>
          cases taken
          refine ⟨?_, rfl, rfl⟩
          simp only [left, waiting]
          exact Nat.lt_succ_self _
      case h_3 => cases taken
  case h_2 stats aggregated =>
      cases taken
      refine ⟨?_, rfl, rfl⟩
      simp only [left, aggregated, trySendLog]
      split <;> simp only [MetricsStep.left] <;> omega
  case h_3 reporting =>
      cases taken
      refine ⟨?_, rfl, rfl⟩
      simp only [left, reporting]
      exact Nat.lt_succ_self _
  case h_4 => cases taken

theorem left_write (taken : balancer.write = some next) :
    next.left .log < balancer.left .log ∧ next.pool = balancer.pool ∧
      next.metrics = balancer.metrics ∧ next.metricsThread = balancer.metricsThread ∧
      next.healthThread = balancer.healthThread := by
  unfold write at taken
  split at taken
  case h_1 waiting =>
      split at taken
      case h_1 record log answer =>
          cases taken
          refine ⟨?_, rfl, rfl, rfl, rfl⟩
          simp only [left, waiting, (Channel.received_of_recv answer).queue, List.length_cons,
            LogStep.left]
          omega
      case h_2 =>
          cases taken
          refine ⟨?_, rfl, rfl, rfl, rfl⟩
          simp only [left, waiting]
          exact Nat.lt_succ_self _
      case h_3 => cases taken
  case h_2 record writing =>
      cases taken
      refine ⟨?_, rfl, rfl, rfl, rfl⟩
      simp only [left, writing]
      exact Nat.lt_succ_self _
  case h_3 => cases taken

theorem left_probe {record : Option Record} (taken : balancer.probe record = some next) :
    (balancer.healthStop = true → next.left .health < balancer.left .health) ∧
      next.pool = balancer.pool ∧ next.metrics = balancer.metrics ∧
      next.metricsThread = balancer.metricsThread := by
  unfold probe at taken
  split at taken
  case h_1 looping =>
      split at taken
      · cases taken
        refine ⟨fun _ => ?_, rfl, rfl, rfl⟩
        simp only [left, looping]
        exact Nat.lt_succ_self _
      case isFalse goesOn =>
          cases taken
          exact ⟨fun stop => absurd stop goesOn, rfl, rfl, rfl⟩
  case h_2 scanning =>
      cases taken
      refine ⟨fun _ => ?_, rfl, rfl, rfl⟩
      simp only [left, scanning]
      exact Nat.lt_succ_self _
  case h_3 addr addrs scanning =>
      split at taken
      · cases taken
        refine ⟨fun _ => ?_, rfl, rfl, rfl⟩
        simp only [left, scanning, HealthStep.left]
        omega
      case isFalse goesOn =>
          cases taken
          exact ⟨fun stop => absurd stop goesOn, rfl, rfl, rfl⟩
  case h_4 addrs probing =>
      split at taken
      · cases taken
        refine ⟨fun _ => ?_, rfl, rfl, rfl⟩
        simp only [left, probing]
        exact Nat.lt_succ_self _
      · cases taken
        refine ⟨fun _ => ?_, rfl, rfl, rfl⟩
        simp only [left, probing]
        exact Nat.lt_succ_self _
  case h_5 remaining sleeping =>
      split at taken
      · cases taken
        refine ⟨fun _ => ?_, rfl, rfl, rfl⟩
        simp only [left, sleeping]
        exact Nat.lt_succ_self _
      case isFalse goesOn =>
          cases taken
          exact ⟨fun stop => absurd (.inr stop) goesOn, rfl, rfl, rfl⟩
  case h_6 => cases taken

/-- While an abandoned thread is joined, its own steps bring it closer to its
end, and no step takes it further away. -/
theorem left_step [DecidableEq Stream] {thread : Thread}
    {action : Action Stream Record Stats} (inRun : InRun balancer run)
    (joins : Joins balancer run thread) (running : balancer.hasExited thread = false)
    (taken : balancer.step action = some next) :
    next.left thread ≤ balancer.left thread ∧
      (action.isOf thread = true → next.left thread < balancer.left thread) := by
  have abandoned := inRun.abandoned joins
  have noCall := inRun.alone.calls
  have noContext := inRun.alone.contextHandles
  have noLog := inRun.alone.logHandles
  have untouched {after : Balancer Stream Record Stats} (eq : after.left thread = balancer.left thread)
      (notOwn : action.isOf thread = false) :
      after.left thread ≤ balancer.left thread ∧
        (action.isOf thread = true → after.left thread < balancer.left thread) :=
    ⟨eq.le, fun own => by rw [notOwn] at own; cases own⟩
  have nearer {after : Balancer Stream Record Stats}
      (less : after.left thread < balancer.left thread) :
      after.left thread ≤ balancer.left thread ∧
        (action.isOf thread = true → after.left thread < balancer.left thread) :=
    ⟨less.le, fun _ => less⟩
  cases action with
  | submit stream => simp [Balancer.step, inRun.running] at taken
  | advance call => simp [Balancer.step, ThreadPool.advance, noCall] at taken
  | work worker =>
      rcases left_work taken thread with ⟨_, closer⟩ | ⟨other, same⟩
      · exact nearer closer
      · refine untouched same ?_
        cases thread with
        | worker joined =>
            exact beq_eq_false_iff_ne.mpr fun eq => other (congrArg Thread.worker eq)
        | _ => rfl
  | emitLog user record =>
      simp only [Balancer.step] at taken
      split at taken
      case isFalse => cases taken
      case isTrue =>
          cases taken
          cases thread with
          | log => exact untouched (by simp [emitLog, abandoned.2.2.1]) rfl
          | _ =>
              refine untouched ?_ rfl
              unfold emitLog
              split <;> rfl
  | recordMetrics user stats =>
      simp only [Balancer.step] at taken
      split at taken
      case isFalse => cases taken
      case isTrue =>
          cases taken
          cases thread with
          | metrics => exact untouched (by simp [recordMetrics, abandoned.2.2.1]) rfl
          | _ =>
              refine untouched ?_ rfl
              unfold recordMetrics
              split <;> rfl
  | cloneContext => simp [Balancer.step, inRun.running, noContext] at taken
  | dropContext => simp [Balancer.step, noContext] at taken
  | cloneLogSender => simp [Balancer.step, inRun.running, noLog] at taken
  | dropLogSender => simp [Balancer.step, noLog] at taken
  | sendLog record => simp [Balancer.step, noLog] at taken
  | aggregate record due =>
      obtain ⟨closer, samePool, sameHealth⟩ := left_aggregate taken
      cases thread with
      | metrics => exact nearer closer
      | worker worker => exact untouched (by simp only [left, samePool]) rfl
      | health => exact untouched (by simp only [left, sameHealth]) rfl
      | log =>
          change balancer.aggregate record due = some next at taken
          rw [aggregate, abandoned.2.2.2.1] at taken
          cases taken
  | write =>
      obtain ⟨closer, samePool, sameMetrics, sameThread, sameHealth⟩ := left_write taken
      cases thread with
      | log => exact nearer closer
      | worker worker => exact untouched (by simp only [left, samePool]) rfl
      | health => exact untouched (by simp only [left, sameHealth]) rfl
      | metrics => exact untouched (by simp only [left, sameMetrics, sameThread]) rfl
  | probe record =>
      obtain ⟨closer, samePool, sameMetrics, sameThread⟩ := left_probe taken
      cases thread with
      | health => exact nearer (closer abandoned)
      | worker worker => exact untouched (by simp only [left, samePool]) rfl
      | metrics => exact untouched (by simp only [left, sameMetrics, sameThread]) rfl
      | log =>
          change balancer.probe record = some next at taken
          rw [probe, abandoned.2.2.2.2] at taken
          cases taken
  | beginShutdown kind => simp [Balancer.step, beginShutdown, inRun.running] at taken
  | own snapshot =>
      simp only [Balancer.step, inRun.running] at taken
      rw [joins.waits running] at taken
      cases taken

/-- A thread whose join the owner waits for. -/
def Awaited (thread : Thread) (balancer : Balancer Stream Record Stats) : Prop :=
  balancer.hasExited thread = false ∧
    ∃ run, InRun balancer run ∧ Joins balancer run thread

theorem drains [DecidableEq Stream] (record : Record) (thread : Thread) :
    Machine.Drains (machine : Machine (Balancer Stream Record Stats) _)
      (fun action => action.isOf thread = true) (Awaited thread)
      (fun balancer => balancer.hasExited thread = true) (fun balancer => balancer.left thread)
    where
  enabled := fun balancer awaited _ => by
    obtain ⟨running, run, inRun, joins⟩ := awaited
    exact enabled_of_abandoned record (inRun.abandoned joins) running
  decreases := fun balancer action next awaited own taken => by
    obtain ⟨running, run, inRun, joins⟩ := awaited
    exact (left_step inRun joins running taken).2 own
  others := fun balancer action next awaited taken => by
    obtain ⟨running, run, inRun, joins⟩ := awaited
    exact (left_step inRun joins running taken).1

/-- As long as the thread runs it is awaited. -/
theorem InRun.awaited_step [DecidableEq Stream] {thread : Thread}
    {action : Action Stream Record Stats} (inRun : InRun balancer run)
    (joins : Joins balancer run thread) (running : balancer.hasExited thread = false)
    (taken : balancer.step action = some next) :
    ∃ run, InRun next run ∧ Joins next run thread := by
  rcases step_during_run inRun.running inRun.alone taken with
    ⟨snapshot, rfl, owned⟩ | undisturbed
  · rw [joins.waits running] at owned
    cases owned
  · exact ⟨run, inRun.undisturbed (plumbed_step inRun.plumbed taken) undisturbed,
      joins.of_undisturbed undisturbed⟩

theorem InRun.own_steps_le [DecidableEq Stream] {thread : Thread} (record : Record)
    {actions : List (Action Stream Record Stats)} {final : Balancer Stream Record Stats}
    (inRun : InRun balancer run) (joins : Joins balancer run thread)
    (running : machine.RunWhile (fun state => state.hasExited thread = false) balancer actions
      final) :
    actions.countP (·.isOf thread) ≤ balancer.left thread := by
  have awaited := running.strengthen (fun state => ∃ run, InRun state run ∧
    Joins state run thread) ⟨run, inRun, joins⟩ fun state action next stays held taken => by
      obtain ⟨run, inRun, joins⟩ := held
      exact inRun.awaited_step joins stays taken
  have counted := (drains record thread).own_steps_le awaited
  simp only [Bool.decide_eq_true] at counted
  omega

/-- What the thread's channel accepted has been received when it has exited. -/
theorem allReceived_of_exited {thread : Thread} (plumbed : balancer.Plumbed)
    (exited : balancer.hasExited thread = true) : balancer.AllReceived thread := by
  cases thread with
  | worker worker =>
      obtain ⟨lane, found, gone⟩ := hasExited_worker_iff.mp exited
      exact ⟨lane, found, Channel.received_of_empty ((plumbed.wired found).drained gone).1⟩
  | metrics =>
      exact Channel.received_of_empty (plumbed.metricsReader (hasExited_metrics_iff.mp exited)).empty
  | log =>
      exact Channel.received_of_empty (plumbed.logReader (hasExited_log_iff.mp exited)).empty
  | health => trivial

/-! ## The owner and the second sequence -/

theorem joining_of_joins {thread : Thread} (joins : Joins balancer run thread) :
    balancer.joining run = some thread := by
  cases joins with
  | health point held => simp [joining, point, held]
  | worker point handles => simp [joining, point, handles]
  | metrics point held => simp [joining, point, held]
  | log point held => simp [joining, point, held]

/-- The owner waits for nothing but the thread that it joins. -/
theorem InRun.goesOn {snapshot : Record} (inRun : InRun balancer run)
    (exited : ∀ thread, balancer.joining run = some thread →
      balancer.hasExited thread = true)
    (unfinished : run.point = .returned → run.kind = .shutdown) :
    ∃ next, balancer.shutdownStep run snapshot = some next := by
  have returns {thread : Thread} (joins : Joins balancer run thread) :
      ∃ next, balancer.shutdownStep run snapshot = some next :=
    joins.returns (exited thread (joining_of_joins joins))
  have begins (elsewhere : ¬(run.point = .clearing ∨ run.point = .clearingThreads)) :
      ∃ pool, balancer.pool.beginStop = some pool :=
    ⟨_, ThreadPool.beginStop_eq_some_iff.mpr
      ⟨⟨inRun.notStopping elsewhere, inRun.alone.calls⟩, rfl⟩⟩
  have clears (here : run.point = .clearing ∨ run.point = .clearingThreads) (point : Point) :
      ∃ next, balancer.clearSenders run point = some next := by
    have stopping := inRun.stopping.mpr here
    unfold Balancer.clearSenders
    split
    case h_1 none =>
        rw [ThreadPool.endStop_eq_some_iff.mpr ⟨⟨stopping, none⟩, rfl⟩]
        exact ⟨_, rfl⟩
    case h_2 worker rest senders =>
        have bound := inRun.plumbed.dispatching.workers worker
          (by rw [senders]; exact List.mem_cons_self)
        unfold ThreadPool.dropSender
        rw [if_pos stopping, senders]
        dsimp only
        rw [List.getElem?_eq_getElem bound]
        exact ⟨_, rfl⟩
  cases point : run.point with
  | stopAccepting =>
      obtain ⟨pool, begun⟩ := begins (by rw [point]; decide)
      simp [Balancer.shutdownStep, point, begun]
  | stopThreads =>
      obtain ⟨pool, begun⟩ := begins (by rw [point]; decide)
      simp [Balancer.shutdownStep, point, begun]
  | clearing =>
      obtain ⟨next, cleared⟩ := clears (.inl point) .grace
      simp [Balancer.shutdownStep, point, cleared]
  | clearingThreads =>
      obtain ⟨next, cleared⟩ := clears (.inr point) .takeHandles
      simp [Balancer.shutdownStep, point, cleared]
  | joinHealth =>
      by_cases held : balancer.healthHandle = true
      · exact returns (.health point held)
      · simp [Balancer.shutdownStep, point, held]
  | joinWorkers =>
      cases handles : run.workers with
      | nil => simp [Balancer.shutdownStep, point, handles]
      | cons worker rest => exact returns (.worker point handles)
  | joinMetrics =>
      by_cases held : run.metrics = true
      · exact returns (.metrics point held)
      · simp [Balancer.shutdownStep, point, held]
  | joinLog =>
      by_cases held : run.log = true
      · exact returns (.log point held)
      · simp [Balancer.shutdownStep, point, held]
  | returned => simp [Balancer.shutdownStep, point, unfinished point]
  | signal => simp [Balancer.shutdownStep, point]
  | stopHealth => simp [Balancer.shutdownStep, point]
  | grace => simp [Balancer.shutdownStep, point]
  | takeHandles => simp [Balancer.shutdownStep, point]
  | detach => simp [Balancer.shutdownStep, point]
  | dropMetricsTx => simp [Balancer.shutdownStep, point]
  | shutdownLog => simp [Balancer.shutdownStep, point]
  | dropLogTx => simp [Balancer.shutdownStep, point]

/-- Nothing has changed but the statement that the sequence has reached;
`stopping` only tells that it is inside `stop_accepting`. -/
def Unchanged (balancer next : Balancer Stream Record Stats) : Prop :=
  { next with
    run := balancer.run
    pool := { next.pool with stopping := balancer.pool.stopping } } = balancer

theorem Unchanged.trans {final : Balancer Stream Record Stats}
    (first : Unchanged balancer next) (second : Unchanged next final) :
    Unchanged balancer final := by
  unfold Unchanged at first second ⊢
  rw [← first, ← second]

/-- In the second sequence all threads have gone. -/
theorem InRun.quiet [DecidableEq Stream] {action : Action Stream Record Stats}
    (inRun : InRun balancer run) (again : run.kind = .dropAgain)
    (taken : balancer.step action = some next) :
    ∃ snapshot, balancer.shutdownStep run snapshot = some next := by
  have gone {worker : Nat} {lane : Lane Stream}
      (found : balancer.pool.lanes[worker]? = some lane) : lane.worker = .exited := by
    obtain ⟨lane', found', exited⟩ :=
      inRun.workers_gone (.inl again) (List.getElem?_eq_some_iff.mp found).1
    rw [found, Option.some.injEq] at found'
    rw [found', exited]
  have nobody : ∀ user, balancer.mayUse user = false := by
    intro user
    cases user with
    | worker worker =>
        cases found : balancer.pool.lanes[worker]? with
        | none => simp [mayUse, found]
        | some lane =>
            obtain ⟨queue, step⟩ := lane
            cases gone found
            simp [mayUse, found]
    | borrower => simp [mayUse, inRun.running]
    | holder => simp [mayUse, inRun.alone.contextHandles]
  cases action with
  | submit stream => simp [Balancer.step, inRun.running] at taken
  | advance call => simp [Balancer.step, ThreadPool.advance, inRun.alone.calls] at taken
  | work worker =>
      obtain ⟨pool, _, works, _⟩ := work_cases taken
      obtain ⟨lane, _, found, _, closer⟩ := left_works works
      have idle : balancer.pool.work worker = none := by
        unfold ThreadPool.work
        rw [found]
        dsimp only
        rw [gone found]
      change balancer.work worker = some next at taken
      rw [Balancer.work, idle] at taken
      cases taken
  | emitLog user record => simp [Balancer.step, nobody] at taken
  | recordMetrics user stats => simp [Balancer.step, nobody] at taken
  | cloneContext => simp [Balancer.step, inRun.running, inRun.alone.contextHandles] at taken
  | dropContext => simp [Balancer.step, inRun.alone.contextHandles] at taken
  | cloneLogSender => simp [Balancer.step, inRun.running, inRun.alone.logHandles] at taken
  | dropLogSender => simp [Balancer.step, inRun.alone.logHandles] at taken
  | sendLog record => simp [Balancer.step, inRun.alone.logHandles] at taken
  | aggregate record due =>
      simp [Balancer.step, aggregate, inRun.metrics_exited (.inl again)] at taken
  | write => simp [Balancer.step, write, inRun.log_exited (.inl again)] at taken
  | probe record => simp [Balancer.step, probe, inRun.health_exited (.inl again)] at taken
  | beginShutdown kind => simp [Balancer.step, beginShutdown, inRun.running] at taken
  | own snapshot =>
      simp only [Balancer.step, inRun.running] at taken
      exact ⟨snapshot, taken⟩

theorem detach_eq_self (noLogTx : balancer.contextLogTx = false)
    (noMetricsTx : balancer.contextMetricsTx = false) : balancer.detach = balancer := by
  obtain ⟨⟩ := balancer
  cases noLogTx
  cases noMetricsTx
  unfold detach
  split <;> rfl

/-- A statement of the second sequence changes nothing. -/
theorem InRun.unchanged {snapshot : Record} (inRun : InRun balancer run)
    (again : run.kind = .dropAgain) (taken : balancer.shutdownStep run snapshot = some next) :
    Unchanged balancer next ∧ ∃ run', next.run = some run' ∧ run'.kind = .dropAgain := by
  have signalled : balancer.pool.shuttingDown = true := inRun.established .signal (.inl again)
  have stopped : balancer.healthStop = true := inRun.established .stopHealth (.inl again)
  have noHealth : balancer.healthHandle = false := inRun.established .joinHealth (.inl again)
  have cleared : balancer.pool.connectionTxs = [] :=
    inRun.established .clearingThreads (.inl again)
  have noHandle : balancer.handles = [] := inRun.established .takeHandles (.inl again)
  have noWorker : run.workers = [] := inRun.established .joinWorkers (.inl again)
  have noMetrics : run.metrics = false := inRun.established .joinMetrics (.inl again)
  have noLog : run.log = false := inRun.established .joinLog (.inl again)
  have context : balancer.contextLogTx = false ∧ balancer.contextMetricsTx = false :=
    inRun.established .detach (.inl again)
  have noMetricsTx : balancer.poolMetricsTx = false :=
    inRun.established .dropMetricsTx (.inl again)
  have noLogTx : balancer.poolLogTx = false := inRun.established .dropLogTx (.inl again)
  have clears {point : Point} {after : Balancer Stream Record Stats}
      (taken : balancer.clearSenders run point = some after) :
      Unchanged balancer after ∧ ∃ run', after.run = some run' ∧ run'.kind = .dropAgain := by
    unfold Balancer.clearSenders at taken
    rw [cleared] at taken
    obtain ⟨pool, ended, rfl⟩ := Option.map_eq_some_iff.mp taken
    obtain ⟨_, rfl⟩ := ThreadPool.endStop_eq_some_iff.mp ended
    exact ⟨rfl, _, rfl, again⟩
  unfold Balancer.shutdownStep at taken
  cases point : run.point <;> simp only [point] at taken
  case signal =>
      cases taken
      refine ⟨?_, _, rfl, again⟩
      unfold Unchanged
      rw [← signalled]
  case stopHealth =>
      cases taken
      refine ⟨?_, _, rfl, again⟩
      unfold Unchanged
      rw [← stopped]
  case stopThreads =>
      obtain ⟨pool, begun, rfl⟩ := Option.map_eq_some_iff.mp taken
      obtain ⟨_, rfl⟩ := ThreadPool.beginStop_eq_some_iff.mp begun
      refine ⟨?_, _, rfl, again⟩
      unfold Unchanged
      dsimp only
      rw [← signalled]
  case joinHealth =>
      rw [noHealth] at taken
      cases taken
      refine ⟨?_, _, rfl, again⟩
      unfold Unchanged
      dsimp only
      rw [← noHealth]
  case stopAccepting =>
      obtain ⟨pool, begun, rfl⟩ := Option.map_eq_some_iff.mp taken
      obtain ⟨_, rfl⟩ := ThreadPool.beginStop_eq_some_iff.mp begun
      refine ⟨?_, _, rfl, again⟩
      unfold Unchanged
      dsimp only
      rw [← signalled]
  case clearing => exact clears taken
  case clearingThreads => exact clears taken
  case grace =>
      cases taken
      exact ⟨rfl, _, rfl, again⟩
  case takeHandles =>
      cases taken
      refine ⟨?_, _, rfl, again⟩
      unfold Unchanged
      dsimp only
      rw [← noHandle]
  case joinWorkers =>
      rw [noWorker] at taken
      cases taken
      exact ⟨rfl, _, rfl, again⟩
  case detach =>
      cases taken
      rw [detach_eq_self context.1 context.2]
      exact ⟨rfl, _, rfl, again⟩
  case dropMetricsTx =>
      cases taken
      refine ⟨?_, _, rfl, again⟩
      unfold Unchanged
      rw [noMetricsTx]
      dsimp only [Channel.dropSenderIf]
      rw [if_neg Bool.false_ne_true, ← noMetricsTx]
  case joinMetrics =>
      rw [noMetrics] at taken
      cases taken
      exact ⟨rfl, _, rfl, again⟩
  case shutdownLog =>
      rw [noLogTx] at taken
      cases taken
      exact ⟨rfl, _, rfl, again⟩
  case dropLogTx =>
      cases taken
      refine ⟨?_, _, rfl, again⟩
      unfold Unchanged
      rw [noLogTx]
      dsimp only [Channel.dropSenderIf]
      rw [if_neg Bool.false_ne_true, ← noLogTx]
  case joinLog =>
      rw [noLog] at taken
      cases taken
      exact ⟨rfl, _, rfl, again⟩
  case returned =>
      rw [again] at taken
      cases taken

theorem InRun.unchanged_of_run [DecidableEq Stream]
    {actions : List (Action Stream Record Stats)} (inRun : InRun balancer run)
    (again : run.kind = .dropAgain) (taken : machine.run balancer actions = some next) :
    Unchanged balancer next := by
  induction actions generalizing balancer run with
  | nil =>
      cases taken
      rfl
  | cons action actions ih =>
      obtain ⟨middle, first, rest⟩ := Machine.run_cons_eq_some_iff.mp taken
      obtain ⟨snapshot, owned⟩ := inRun.quiet again first
      obtain ⟨same, run', running, again'⟩ := inRun.unchanged again owned
      obtain ⟨run'', inRun'⟩ := inRun.shutdownStep owned
      rw [inRun'.running, Option.some.injEq] at running
      subst running
      exact same.trans (ih inRun' again' rest)

/-! ## Safety -/

/-- What a state of a shutdown sequence guarantees. -/
structure SafeShutdown [DecidableEq Stream] (balancer : Balancer Stream Record Stats)
    (run : ShutdownRun) : Prop where
  /-- A thread is joined when nobody has a sender of its channel. -/
  abandoned : ∀ thread, balancer.joining run = some thread → balancer.Abandoned thread
  /-- Such a thread is not blocked, -/
  enabled : ∀ thread, balancer.joining run = some thread →
    balancer.hasExited thread = false →
    ∃ action next, action.isOf thread = true ∧ balancer.step action = some next
  /-- and it can take only so many steps, however the threads are scheduled. -/
  bounded : ∀ thread, balancer.joining run = some thread → ∀ actions final,
    machine.RunWhile (fun state => state.hasExited thread = false) balancer actions final →
    actions.countP (·.isOf thread) ≤ balancer.left thread
  /-- The owner waits for nothing else, and not for a thread that has exited. -/
  goesOn : (∀ thread, balancer.joining run = some thread →
      balancer.hasExited thread = true) →
    (run.point = .returned → run.kind = .shutdown) →
    ∀ snapshot, ∃ next, balancer.step (.own snapshot) = some next
  /-- When a join has returned, all that its channel accepted has been received. -/
  received : ∀ thread ∈ balancer.joined, balancer.AllReceived thread
  /-- A sequence that returns has joined or found gone every thread. -/
  finished : run.point = .returned → ∀ thread, balancer.Spawned thread →
    balancer.hasExited thread = true
  /-- `stop_accepting` has returned unless the sequence is inside it. -/
  stopping : balancer.pool.stopping = true ↔
    run.point = .clearing ∨ run.point = .clearingThreads
  /-- A second sequence changes nothing. -/
  again : run.kind = .dropAgain → ∀ actions final,
    machine.run balancer actions = some final → Unchanged balancer final

theorem Reached.nonempty [DecidableEq Stream] (reached : Reached balancer) :
    Nonempty Record := by
  induction reached with
  | @build config logger startup balancer built => exact ⟨startup⟩
  | step _ _ ih => exact ih

theorem InShutdown.nonempty [DecidableEq Stream] (inShutdown : InShutdown balancer) :
    Nonempty Record := by
  induction inShutdown with
  | begin reached => exact reached.nonempty
  | step _ _ ih => exact ih

theorem InRun.finished {thread : Thread} (inRun : InRun balancer run)
    (returned : run.point = .returned) (spawned : balancer.Spawned thread) :
    balancer.hasExited thread = true := by
  cases thread with
  | worker worker =>
      exact hasExited_worker_iff.mpr
        (inRun.workers_gone (.inr (by rw [returned]; decide)) spawned)
  | metrics =>
      exact hasExited_metrics_iff.mpr (inRun.metrics_exited (.inr (by rw [returned]; decide)))
  | log => exact hasExited_log_iff.mpr (inRun.log_exited (.inr (by rw [returned]; decide)))
  | health =>
      exact hasExited_health_iff.mpr (inRun.health_exited (.inr (by rw [returned]; decide)))

/-- Shutdown never joins a thread that cannot exit, and loses no queued
record. -/
theorem shutdown_safe [DecidableEq Stream] (inShutdown : InShutdown balancer)
    (running : balancer.run = some run) : balancer.SafeShutdown run := by
  obtain ⟨run', inRun⟩ := inShutdown.inRun
  obtain ⟨record⟩ := inShutdown.nonempty
  have same : run = run' := by
    rw [inRun.running, Option.some.injEq] at running
    exact running.symm
  subst same
  exact
    { abandoned := fun thread joins => inRun.abandoned (joins_of_joining joins)
      enabled := fun thread joins stays =>
        enabled_of_abandoned record (inRun.abandoned (joins_of_joining joins)) stays
      bounded := fun thread joins actions final =>
        inRun.own_steps_le record (joins_of_joining joins)
      goesOn := fun exited unfinished snapshot => by
        simp only [Balancer.step, running]
        exact inRun.goesOn exited unfinished
      received := fun thread member =>
        allReceived_of_exited inRun.plumbed (inRun.joined thread member)
      finished := fun returned thread => inRun.finished returned
      stopping := inRun.stopping
      again := fun again actions final => inRun.unchanged_of_run again }

theorem Reached.of_run [DecidableEq Stream] {actions : List (Action Stream Record Stats)}
    (reached : Reached balancer) (taken : machine.run balancer actions = some next) :
    Reached next :=
  Machine.run_induction (fun _ state => Reached state) reached
    (fun _ _ _ _ before step => before.step step) taken

theorem InShutdown.of_run [DecidableEq Stream]
    {actions : List (Action Stream Record Stats)} (inShutdown : InShutdown balancer)
    (taken : machine.run balancer actions = some next) : InShutdown next :=
  Machine.run_induction (fun _ state => InShutdown state) inShutdown
    (fun _ _ _ _ before step => before.step step) taken

/-- One backend and one worker. -/
def smallConfig : BalancerConfig :=
  { backends := ⟨[.v4 localhost 9000], by decide⟩
    pool := { workers := 1, perWorkerQueue := 1 } }

/-- A stream is queued. -/
def oneQueued : List (Action Nat Nat Nat) :=
  [.submit 1, .advance 0, .advance 0, .advance 0]

/-- The monitor is joined, the senders are dropped, and the handles taken. -/
def toJoin : List (Action Nat Nat Nat) :=
  [.own 0, .own 0, .probe none, .own 0, .own 0, .own 0, .own 0, .own 0, .own 0, .own 0, .own 0]

/-- The worker is joined while a stream is in its queue. -/
theorem shutdown_safe_queued :
    ∃ (balancer : Balancer Nat Nat Nat) (run : ShutdownRun),
      balancer.run = some run ∧ balancer.joining run = some (.worker 0) ∧
        balancer.left (.worker 0) = 6 ∧ balancer.SafeShutdown run := by
  obtain ⟨built, isBuilt⟩ : ∃ built : Balancer Nat Nat Nat,
    build smallConfig (.ok ()) 0 = .ok built := ⟨_, rfl⟩
  obtain ⟨serving, served, noContext, noLog, begun, begins⟩ : ∃ serving,
      machine.run built oneQueued = some serving ∧ serving.contextHandles = 0 ∧
        serving.logHandles = 0 ∧ ∃ begun, serving.beginShutdown .shutdown = some begun := by
    cases isBuilt
    exact ⟨_, rfl, rfl, rfl, _, rfl⟩
  obtain ⟨balancer, run, taken, running, joins, steps⟩ : ∃ balancer run,
      machine.run begun toJoin = some balancer ∧ balancer.run = some run ∧
        balancer.joining run = some (.worker 0) ∧ balancer.left (.worker 0) = 6 := by
    cases isBuilt
    cases served
    cases begins
    exact ⟨_, _, rfl, rfl, rfl, rfl⟩
  have reached := (Reached.build isBuilt).of_run served
  have inShutdown := (InShutdown.begin reached noContext noLog begins).of_run taken
  exact ⟨balancer, run, running, joins, steps, shutdown_safe inShutdown running⟩

end Balancer

end Mzani
