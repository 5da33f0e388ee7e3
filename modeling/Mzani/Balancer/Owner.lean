import Mzani.Balancer.SafeShutdown
import Mzani.Core.PoolAcceptance

/-!
# The owner of the balancer

What any run of the balancer, with any handles held outside, does to its pool
and to what its owner holds: a step of the balancer is a step of its pool or
leaves it alone, and only the statements of the owner give up senders, handles
and workers.
-/

namespace Mzani

open Support

variable {Stream Record Stats : Type}

namespace Balancer

/-! ## Steps of anyone but the owner -/

/-- The step leaves alone what the owner holds. -/
structure Leaves (balancer next : Balancer Stream Record Stats) : Prop where
  run : next.run = balancer.run
  handles : next.handles = balancer.handles
  metricsTx : next.poolMetricsTx = balancer.poolMetricsTx
  logTx : next.poolLogTx = balancer.poolLogTx

/-- The step leaves alone the pool too. -/
structure Aside (balancer next : Balancer Stream Record Stats) : Prop
    extends Leaves balancer next where
  pool : next.pool = balancer.pool

section

variable {balancer next : Balancer Stream Record Stats}

theorem aside_aggregate {record : Record} {due : Bool}
    (taken : balancer.aggregate record due = some next) : Aside balancer next := by
  unfold aggregate at taken
  split at taken
  · split at taken <;> cases taken <;> exact ⟨⟨rfl, rfl, rfl, rfl⟩, rfl⟩
  · cases taken
    exact ⟨⟨rfl, rfl, rfl, rfl⟩, rfl⟩
  · cases taken
    exact ⟨⟨rfl, rfl, rfl, rfl⟩, rfl⟩
  · cases taken

theorem aside_write (taken : balancer.write = some next) : Aside balancer next := by
  unfold write at taken
  split at taken
  · split at taken <;> cases taken <;> exact ⟨⟨rfl, rfl, rfl, rfl⟩, rfl⟩
  · cases taken
    exact ⟨⟨rfl, rfl, rfl, rfl⟩, rfl⟩
  · cases taken

theorem aside_probe {record : Option Record} (taken : balancer.probe record = some next) :
    Aside balancer next := by
  unfold probe at taken
  split at taken
  · split at taken <;> cases taken <;> exact ⟨⟨rfl, rfl, rfl, rfl⟩, rfl⟩
  · cases taken
    exact ⟨⟨rfl, rfl, rfl, rfl⟩, rfl⟩
  · split at taken <;> cases taken <;> exact ⟨⟨rfl, rfl, rfl, rfl⟩, rfl⟩
  · split at taken <;> cases taken <;> exact ⟨⟨rfl, rfl, rfl, rfl⟩, rfl⟩
  · split at taken <;> cases taken <;> exact ⟨⟨rfl, rfl, rfl, rfl⟩, rfl⟩
  · cases taken

theorem leaves_work {worker : Nat} (taken : balancer.work worker = some next) :
    Leaves balancer next := by
  obtain ⟨pool, _, _, _, ⟨_, _, rfl⟩ | ⟨_, _, rfl⟩⟩ := work_cases taken
  · exact ⟨rfl, rfl, rfl, rfl⟩
  · exact ⟨rfl, rfl, rfl, rfl⟩

end

/-! ## The pool of a balancer -/

section

variable {balancer next : Balancer Stream Record Stats}

theorem pool_join {thread : Thread} {run : ShutdownRun}
    (joined : balancer.join thread run = some next) : next.pool = balancer.pool := by
  obtain ⟨_, rfl⟩ := join_eq_some_iff.mp joined
  rfl

theorem pool_detach : balancer.detach.pool = balancer.pool := by
  unfold detach
  split <;> rfl

variable [DecidableEq Stream]

/-- A step of the balancer is a step of its pool, or leaves the pool alone. -/
def PoolSteps (balancer next : Balancer Stream Record Stats) : Prop :=
  next.pool = balancer.pool ∨
    ∃ action : PoolAction Stream, balancer.pool.step action = some next.pool

theorem poolSteps_clearSenders {run : ShutdownRun} {point : Point}
    (taken : balancer.clearSenders run point = some next) : PoolSteps balancer next := by
  unfold clearSenders at taken
  split at taken
  · obtain ⟨pool, stopped, rfl⟩ := Option.map_eq_some_iff.mp taken
    exact .inr ⟨.stopped, stopped⟩
  · obtain ⟨pool, dropped, rfl⟩ := Option.map_eq_some_iff.mp taken
    exact .inr ⟨.dropSender, dropped⟩

theorem poolSteps_shutdownStep {run : ShutdownRun} {snapshot : Record}
    (taken : balancer.shutdownStep run snapshot = some next) : PoolSteps balancer next := by
  unfold shutdownStep at taken
  cases point : run.point <;> simp only [point] at taken
  case signal =>
      cases taken
      exact .inr ⟨.setShuttingDown, rfl⟩
  case stopHealth | grace | takeHandles | dropMetricsTx | dropLogTx =>
      cases taken
      exact .inl rfl
  case joinHealth =>
      split at taken
      · obtain ⟨joined, hasJoined, rfl⟩ := Option.map_eq_some_iff.mp taken
        have same : joined.pool = balancer.pool := pool_join hasJoined
        exact .inl same
      · cases taken
        exact .inl rfl
  case stopAccepting | stopThreads =>
      obtain ⟨pool, begun, rfl⟩ := Option.map_eq_some_iff.mp taken
      exact .inr ⟨.stopAccepting, begun⟩
  case clearing | clearingThreads => exact poolSteps_clearSenders taken
  case joinWorkers =>
      split at taken
      · cases taken
        exact .inl rfl
      · exact .inl (pool_join taken)
  case detach =>
      cases taken
      exact .inl pool_detach
  case joinMetrics | joinLog =>
      split at taken
      · exact .inl (pool_join taken)
      · cases taken
        exact .inl rfl
  case shutdownLog =>
      cases taken
      apply Or.inl
      dsimp only
      split <;> rfl
  case returned =>
      split at taken
      · cases taken
        exact .inl rfl
      · cases taken

theorem poolSteps_step {action : Action Stream Record Stats}
    (taken : balancer.step action = some next) : PoolSteps balancer next := by
  cases action with
  | submit stream =>
      simp only [step] at taken
      split at taken
      · cases taken
      · obtain ⟨pool, entered, rfl⟩ := Option.map_eq_some_iff.mp taken
        exact .inr ⟨.submit stream, entered⟩
  | advance call =>
      obtain ⟨pool, advanced, rfl⟩ := Option.map_eq_some_iff.mp taken
      exact .inr ⟨.advance call, advanced⟩
  | work worker =>
      simp only [step, work] at taken
      split at taken
      · cases taken
      case h_2 pool worked =>
          refine .inr ⟨.work worker, ?_⟩
          split at taken
          · cases taken
            exact worked
          · cases taken
            exact worked
  | emitLog user record =>
      simp only [step, emitLog] at taken
      split at taken
      · cases taken
        apply Or.inl
        split <;> rfl
      · cases taken
  | recordMetrics user stats =>
      simp only [step, recordMetrics] at taken
      split at taken
      · cases taken
        apply Or.inl
        split <;> rfl
      · cases taken
  | aggregate record due => exact .inl (aside_aggregate taken).pool
  | write => exact .inl (aside_write taken).pool
  | probe record => exact .inl (aside_probe taken).pool
  | beginShutdown kind =>
      simp only [step, beginShutdown] at taken
      split at taken <;> cases taken
      exact .inl rfl
  | own snapshot =>
      simp only [step] at taken
      split at taken
      · cases taken
      · exact poolSteps_shutdownStep taken
  | _ =>
      simp only [step] at taken
      split at taken <;> cases taken
      exact .inl rfl

/-- The balancer's pool is a pool as it is run on its own. -/
structure PoolSound (balancer : Balancer Stream Record Stats) : Prop where
  invariant : ∃ capacity, balancer.pool.Invariant capacity
  traced : balancer.pool.Traced

theorem PoolSound.step {action : Action Stream Record Stats} (sound : balancer.PoolSound)
    (taken : balancer.step action = some next) : next.PoolSound := by
  rcases poolSteps_step taken with same | ⟨action, stepped⟩
  · constructor
    · rw [same]
      exact sound.invariant
    · rw [same]
      exact sound.traced
  · obtain ⟨capacity, invariant⟩ := sound.invariant
    constructor
    · exact ⟨capacity, ThreadPool.invariant_step capacity invariant stepped⟩
    · exact ThreadPool.traced_of_steps sound.traced (ThreadPool.steps_of_step stepped)

omit [DecidableEq Stream] in
theorem poolSound_build {config : BalancerConfig} {logger : MzaniResult Unit}
    {startup : Record} (built : build config logger startup = .ok balancer) :
    balancer.PoolSound := by
  unfold build at built
  split at built
  · cases built
  dsimp only at built
  split at built
  · cases built
  case h_2 pool spawned =>
      cases built
      obtain ⟨positive, rfl⟩ := ThreadPool.new_ok spawned
      exact ⟨⟨_, ThreadPool.invariant_spawn⟩, ThreadPool.traced_spawn⟩

theorem Reached.poolSound (reached : Reached balancer) : balancer.PoolSound := by
  induction reached with
  | build built => exact poolSound_build built
  | step _ taken ih => exact ih.step taken

theorem PoolSteps.keeps (steps : PoolSteps balancer next) :
    ThreadPool.Keeps balancer.pool next.pool := by
  rcases steps with same | ⟨action, stepped⟩
  · rw [same]
    exact ⟨id, id, rfl, fun _ => id⟩
  · exact ThreadPool.keeps_of_steps (ThreadPool.steps_of_step stepped)

end

/-! ## What the owner holds -/

/-- The order in which the statements run. -/
inductive Follows (run : ShutdownRun) : ShutdownRun → Prop where
  | stays {next : ShutdownRun} : next.kind = run.kind → next.point = run.point →
      Follows run next
  | next {next : ShutdownRun} : next.kind = run.kind →
      next.point.rank = run.point.rank + 1 → Follows run next
  | skips {next : ShutdownRun} : next.kind = run.kind → run.kind ≠ .shutdown →
      run.point = .joinHealth → next.point = .stopThreads → Follows run next
  | again {next : ShutdownRun} : run.point = .returned → run.kind = .shutdown →
      next.kind = .dropAgain → Follows run next

section

variable {run run' : ShutdownRun} {point : Point}

theorem Follows.past (follows : Follows run run') (past : run.Past point) :
    run'.Past point := by
  cases follows with
  | stays kind same =>
      rw [ShutdownRun.Past, kind, same]
      exact past
  | next kind successor =>
      rw [ShutdownRun.Past, kind]
      exact past.imp_right fun before => by omega
  | skips kind _ here there =>
      rw [ShutdownRun.Past, kind, there]
      rw [ShutdownRun.Past, here] at past
      exact past.imp_right fun before => Nat.lt_trans before (by decide)
  | again _ _ kind => exact .inl kind

/-- A statement is behind when it has just been run, or was so before. -/
theorem Follows.past_cases (follows : Follows run run') (early : point.rank < 16)
    (ordered : run.kind ≠ .drop ∨ 6 ≤ point.rank) (past : run'.Past point) :
    run.Past point ∨ run.point = point ∧ run'.point ≠ point := by
  cases follows with
  | stays kind same =>
      left
      rw [ShutdownRun.Past, kind, same] at past
      exact past
  | next kind successor =>
      rcases past with again | before
      · exact .inl (.inl (kind.symm.trans again))
      · by_cases now : run.point = point
        · right
          constructor
          · exact now
          · intro same
            rw [same] at before
            exact absurd before (Nat.lt_irrefl _)
        · left
          right
          have different : point.rank ≠ run.point.rank := fun same =>
            now (Point.eq_of_rank same.symm)
          omega
  | skips kind notShutdown here there =>
      rcases past with again | before
      · exact .inl (.inl (kind.symm.trans again))
      · rw [there] at before
        rcases ordered with notDrop | late
        · left
          left
          cases which : run.kind with
          | shutdown => exact absurd which notShutdown
          | drop => exact absurd which notDrop
          | dropAgain => rfl
        · change point.rank < 6 at before
          omega
  | again here _ _ =>
      left
      right
      rw [here]
      exact early

end

/-- What a statement of the owner does to what the owner holds. -/
structure Moves (balancer next : Balancer Stream Record Stats) (run run' : ShutdownRun) :
    Prop where
  running : next.run = some run'
  follows : Follows run run'
  metricsTx : ¬run'.Past .dropMetricsTx → next.poolMetricsTx = balancer.poolMetricsTx
  logTx : ¬run'.Past .dropLogTx → next.poolLogTx = balancer.poolLogTx
  handles : run.point ≠ .takeHandles → next.handles = balancer.handles
  workers : run.point ≠ .takeHandles → run.point ≠ .joinWorkers →
    run'.workers = run.workers
  taken : run.point = .takeHandles → run'.point = .joinWorkers ∧ next.handles = [] ∧
    ∀ worker, worker ∈ run'.workers ↔ .worker worker ∈ balancer.handles
  joined : run.point = .joinWorkers → (run.workers = [] ∧ run'.workers = []) ∨
    ∃ worker, run.workers = worker :: run'.workers ∧ run'.point = .joinWorkers ∧
      balancer.pool.Gone worker

section

variable {balancer next : Balancer Stream Record Stats} {run run' : ShutdownRun}

/-- A statement that neither takes handles nor joins a worker. -/
theorem moves_elsewhere (running : next.run = some run') (follows : Follows run run')
    (notTaking : run.point ≠ .takeHandles) (notJoining : run.point ≠ .joinWorkers)
    (workers : run'.workers = run.workers) (handles : next.handles = balancer.handles)
    (metricsTx : ¬run'.Past .dropMetricsTx → next.poolMetricsTx = balancer.poolMetricsTx)
    (logTx : ¬run'.Past .dropLogTx → next.poolLogTx = balancer.poolLogTx) :
    Moves balancer next run run' where
  running := running
  follows := follows
  metricsTx := metricsTx
  logTx := logTx
  handles := fun _ => handles
  workers := fun _ _ => workers
  taken := fun taking => absurd taking notTaking
  joined := fun joining => absurd joining notJoining

theorem moves_clearSenders {point : Point} (running : balancer.run = some run)
    (successor : point.rank = run.point.rank + 1) (notTaking : run.point ≠ .takeHandles)
    (notJoining : run.point ≠ .joinWorkers)
    (taken : balancer.clearSenders run point = some next) :
    ∃ run', Moves balancer next run run' := by
  unfold clearSenders at taken
  split at taken
  · obtain ⟨pool, _, rfl⟩ := Option.map_eq_some_iff.mp taken
    exact ⟨{ run with point }, moves_elsewhere rfl (.next rfl successor) notTaking
      notJoining rfl rfl (fun _ => rfl) fun _ => rfl⟩
  · obtain ⟨pool, _, rfl⟩ := Option.map_eq_some_iff.mp taken
    exact ⟨run, moves_elsewhere running (.stays rfl rfl) notTaking notJoining rfl rfl
      (fun _ => rfl) fun _ => rfl⟩

/-- The owner joins a thread that is not a worker. -/
theorem moves_join {thread : Thread} (joined : balancer.join thread run' = some next)
    (follows : Follows run run') (notTaking : run.point ≠ .takeHandles)
    (notJoining : run.point ≠ .joinWorkers) (workers : run'.workers = run.workers)
    (healthHandle : Bool) : Moves balancer { next with healthHandle } run run' := by
  obtain ⟨_, rfl⟩ := join_eq_some_iff.mp joined
  exact moves_elsewhere rfl follows notTaking notJoining workers rfl (fun _ => rfl)
    fun _ => rfl

theorem moves_takeHandles {metrics log : Bool} {handles : List Nat}
    (atPoint : run.point = .takeHandles)
    (workers : handles = balancer.handles.filterMap fun
      | .worker worker => some worker
      | _ => none)
    (taken : next = { balancer with
      handles := []
      run := some { run with point := .joinWorkers, workers := handles, metrics, log } }) :
    ∃ run', Moves balancer next run run' := by
  subst taken
  refine ⟨{ run with point := .joinWorkers, workers := handles, metrics, log }, ?_⟩
  exact
    { running := rfl
      follows := .next rfl (by rw [atPoint]; rfl)
      metricsTx := fun _ => rfl
      logTx := fun _ => rfl
      handles := fun elsewhere => absurd atPoint elsewhere
      workers := fun elsewhere => absurd atPoint elsewhere
      taken := fun _ => by
        refine ⟨rfl, rfl, fun worker => ?_⟩
        subst workers
        rw [List.mem_filterMap]
        constructor
        · rintro ⟨thread, member, isWorker⟩
          cases thread <;> cases isWorker
          exact member
        · intro member
          exact ⟨.worker worker, member, rfl⟩
      joined := fun here => by
        rw [atPoint] at here
        cases here }

theorem moves_joinWorker {worker : Nat} {rest : List Nat} (atPoint : run.point = .joinWorkers)
    (handles : run.workers = worker :: rest)
    (taken : balancer.join (.worker worker) { run with workers := rest } = some next) :
    ∃ run', Moves balancer next run run' := by
  obtain ⟨exited, rfl⟩ := join_eq_some_iff.mp taken
  refine ⟨{ run with workers := rest }, ?_⟩
  exact
    { running := rfl
      follows := .stays rfl rfl
      metricsTx := fun _ => rfl
      logTx := fun _ => rfl
      handles := fun _ => rfl
      workers := fun _ elsewhere => absurd atPoint elsewhere
      taken := fun here => by
        rw [atPoint] at here
        cases here
      joined := fun _ => .inr ⟨worker, handles, atPoint, hasExited_worker_iff.mp exited⟩ }

theorem moves_shutdownStep {snapshot : Record} (running : balancer.run = some run)
    (taken : balancer.shutdownStep run snapshot = some next) :
    ∃ run', Moves balancer next run run' := by
  unfold shutdownStep at taken
  cases point : run.point <;> simp only [point] at taken
  case takeHandles =>
      cases taken
      exact moves_takeHandles point rfl rfl
  case joinWorkers =>
      split at taken
      case h_1 none =>
          cases taken
          refine ⟨{ run with point := .detach }, ?_⟩
          exact
            { running := rfl
              follows := .next rfl (by rw [point]; rfl)
              metricsTx := fun _ => rfl
              logTx := fun _ => rfl
              handles := fun _ => rfl
              workers := fun _ _ => rfl
              taken := fun here => by
                rw [point] at here
                cases here
              joined := fun _ => .inl ⟨none, none⟩ }
      case h_2 worker rest handles =>
          apply moves_joinWorker point handles
          rw [← point] at taken
          exact taken
  all_goals
    have notTaking : run.point ≠ .takeHandles := by
      rw [point]
      exact nofun
    have notJoining : run.point ≠ .joinWorkers := by
      rw [point]
      exact nofun
  case signal | stopHealth | grace =>
      cases taken
      exact ⟨_, moves_elsewhere rfl (.next rfl (by rw [point]; rfl)) notTaking notJoining rfl rfl
        (fun _ => rfl) fun _ => rfl⟩
  case joinHealth =>
      have follows : Follows run
          { run with point := if run.kind = .shutdown then .stopAccepting else .stopThreads } := by
        split
        · exact .next rfl (by rw [point]; rfl)
        case isFalse notShutdown => exact .skips rfl notShutdown point rfl
      split at taken
      · obtain ⟨joined, hasJoined, rfl⟩ := Option.map_eq_some_iff.mp taken
        exact ⟨_, moves_join hasJoined follows notTaking notJoining rfl false⟩
      · cases taken
        exact ⟨_, moves_elsewhere rfl follows notTaking notJoining rfl rfl (fun _ => rfl)
          fun _ => rfl⟩
  case stopAccepting | stopThreads =>
      obtain ⟨pool, _, rfl⟩ := Option.map_eq_some_iff.mp taken
      exact ⟨_, moves_elsewhere rfl (.next rfl (by rw [point]; rfl)) notTaking notJoining rfl rfl
        (fun _ => rfl) fun _ => rfl⟩
  case clearing | clearingThreads =>
      exact moves_clearSenders running (by rw [point]; rfl) notTaking notJoining taken
  case detach =>
      cases taken
      have same : balancer.detach.handles = balancer.handles ∧
          balancer.detach.poolMetricsTx = balancer.poolMetricsTx ∧
          balancer.detach.poolLogTx = balancer.poolLogTx := by
        unfold Balancer.detach
        split <;> exact ⟨rfl, rfl, rfl⟩
      exact ⟨_, moves_elsewhere rfl (.next rfl (by rw [point]; rfl)) notTaking notJoining rfl
        same.1 (fun _ => same.2.1) fun _ => same.2.2⟩
  case dropMetricsTx =>
      cases taken
      exact ⟨_, moves_elsewhere rfl (.next rfl (by rw [point]; rfl)) notTaking notJoining rfl rfl
        (fun notYet => absurd (.inr (show 11 < 12 by decide)) notYet) fun _ => rfl⟩
  case joinMetrics | joinLog =>
      split at taken
      · refine ⟨_, moves_join taken ?_ notTaking notJoining ?_ next.healthHandle⟩
        · exact .next rfl (by rw [point]; rfl)
        · rfl
      · cases taken
        exact ⟨_, moves_elsewhere rfl (.next rfl (by rw [point]; rfl)) notTaking notJoining rfl
          rfl (fun _ => rfl) fun _ => rfl⟩
  case shutdownLog =>
      cases taken
      refine ⟨_, moves_elsewhere rfl (.next rfl (by rw [point]; rfl)) notTaking notJoining rfl
        ?_ (fun _ => ?_) fun _ => ?_⟩
      · dsimp only
        split <;> rfl
      · dsimp only
        split <;> rfl
      · dsimp only
        split <;> rfl
  case dropLogTx =>
      cases taken
      exact ⟨_, moves_elsewhere rfl (.next rfl (by rw [point]; rfl)) notTaking notJoining rfl rfl
        (fun _ => rfl) fun notYet => absurd (.inr (show 14 < 15 by decide)) notYet⟩
  case returned =>
      split at taken
      case isTrue isShutdown =>
          cases taken
          exact ⟨_, moves_elsewhere rfl (.again point isShutdown rfl) notTaking notJoining rfl
            rfl (fun _ => rfl) fun _ => rfl⟩
      case isFalse => cases taken

/-- A step begins a sequence, is a statement of the owner, or leaves the owner's
things alone. -/
theorem step_cases [DecidableEq Stream] {action : Action Stream Record Stats}
    (taken : balancer.step action = some next) :
    (∃ kind, balancer.beginShutdown kind = some next) ∨
      (∃ run snapshot run', action = .own snapshot ∧ balancer.run = some run ∧
        Moves balancer next run run') ∨ Leaves balancer next := by
  cases action with
  | submit stream =>
      simp only [step] at taken
      split at taken
      · cases taken
      · obtain ⟨pool, _, rfl⟩ := Option.map_eq_some_iff.mp taken
        exact .inr (.inr ⟨rfl, rfl, rfl, rfl⟩)
  | advance call =>
      obtain ⟨pool, _, rfl⟩ := Option.map_eq_some_iff.mp taken
      exact .inr (.inr ⟨rfl, rfl, rfl, rfl⟩)
  | work worker => exact .inr (.inr (leaves_work taken))
  | aggregate record due => exact .inr (.inr (aside_aggregate taken).toLeaves)
  | write => exact .inr (.inr (aside_write taken).toLeaves)
  | probe record => exact .inr (.inr (aside_probe taken).toLeaves)
  | beginShutdown kind => exact .inl ⟨kind, taken⟩
  | own snapshot =>
      simp only [step] at taken
      split at taken
      · cases taken
      case h_2 run running =>
          obtain ⟨run', moves⟩ := moves_shutdownStep running taken
          exact .inr (.inl ⟨run, snapshot, run', rfl, running, moves⟩)
  | emitLog user record =>
      simp only [step, emitLog] at taken
      split at taken <;> cases taken
      right
      right
      split <;> exact ⟨rfl, rfl, rfl, rfl⟩
  | recordMetrics user stats =>
      simp only [step, recordMetrics] at taken
      split at taken <;> cases taken
      right
      right
      split <;> exact ⟨rfl, rfl, rfl, rfl⟩
  | _ =>
      simp only [step] at taken
      split at taken <;> cases taken
      exact .inr (.inr ⟨rfl, rfl, rfl, rfl⟩)

/-- The pool keeps its senders until the statements that drop them, and somebody
has the handle of every worker that has not gone. -/
structure Owned (balancer : Balancer Stream Record Stats) : Prop where
  metricsTx : (∀ run, balancer.run = some run → ¬run.Past .dropMetricsTx) →
    balancer.poolMetricsTx = true
  logTx : (∀ run, balancer.run = some run → ¬run.Past .dropLogTx) →
    balancer.poolLogTx = true
  untaken : ∀ run, balancer.run = some run → ¬run.Past .takeHandles → run.workers = []
  taken : ∀ run, balancer.run = some run → run.Past .takeHandles → balancer.handles = []
  joined : ∀ run, balancer.run = some run → run.Past .joinWorkers → run.workers = []
  held : ∀ worker < balancer.pool.lanes.length, .worker worker ∈ balancer.handles ∨
    (∃ run, balancer.run = some run ∧ worker ∈ run.workers) ∨ balancer.pool.Gone worker

theorem Owned.leave (owned : balancer.Owned) (leaves : Leaves balancer next)
    (pool : ThreadPool.Keeps balancer.pool next.pool) : next.Owned where
  metricsTx := by
    rw [leaves.run, leaves.metricsTx]
    exact owned.metricsTx
  logTx := by
    rw [leaves.run, leaves.logTx]
    exact owned.logTx
  untaken := by
    rw [leaves.run]
    exact owned.untaken
  taken := by
    rw [leaves.run, leaves.handles]
    exact owned.taken
  joined := by
    rw [leaves.run]
    exact owned.joined
  held := by
    rw [leaves.run, leaves.handles, pool.workers]
    intro worker spawned
    rcases owned.held worker spawned with handle | taken | gone
    · exact .inl handle
    · exact .inr (.inl taken)
    · exact .inr (.inr (pool.gone worker gone))

/-- The handles are taken once only. -/
theorem Owned.workers_eq_nil (owned : balancer.Owned) (running : balancer.run = some run)
    (here : run.point = .takeHandles) : run.workers = [] := by
  by_cases past : run.Past .joinWorkers
  · exact owned.joined run running past
  · apply owned.untaken run running
    rintro (again | earlier)
    · exact past (.inl again)
    · rw [here] at earlier
      exact Nat.lt_irrefl _ earlier

/-- Nothing is left to join once the workers have been. -/
theorem Owned.move_joined (owned : balancer.Owned) (running : balancer.run = some run)
    (moves : Moves balancer next run run') (past : run'.Past .joinWorkers) :
    run'.workers = [] := by
  have earlier := moves.follows.past_cases (by decide) (.inr (by decide)) past
  by_cases joining : run.point = .joinWorkers
  · rcases moves.joined joining with ⟨_, none⟩ | ⟨worker, handles, stays, _⟩
    · exact none
    · rcases earlier with wasPast | ⟨_, elsewhere⟩
      · rw [owned.joined run running wasPast] at handles
        cases handles
      · exact absurd stays elsewhere
  · have wasPast : run.Past .joinWorkers := earlier.resolve_right fun now => joining now.1
    have none := owned.joined run running wasPast
    by_cases here : run.point = .takeHandles
    · have noHandle := owned.taken run running (wasPast.of_rank (by decide))
      apply List.eq_nil_iff_forall_not_mem.mpr
      intro worker member
      have handle := ((moves.taken here).2.2 worker).mp member
      rw [noHandle] at handle
      cases handle
    · exact (moves.workers here joining).trans none

/-- A handle that the sequence holds is still held, or its worker is gone. -/
theorem Owned.move_member (owned : balancer.Owned) (running : balancer.run = some run)
    (moves : Moves balancer next run run') {worker : Nat} (member : worker ∈ run.workers) :
    worker ∈ run'.workers ∨ balancer.pool.Gone worker := by
  by_cases here : run.point = .takeHandles
  · rw [owned.workers_eq_nil running here] at member
    cases member
  · by_cases joining : run.point = .joinWorkers
    · rcases moves.joined joining with ⟨none, _⟩ | ⟨first, handles, _, gone⟩
      · rw [none] at member
        cases member
      · rw [handles] at member
        rcases List.mem_cons.mp member with rfl | later
        · exact .inr gone
        · exact .inl later
    · rw [← moves.workers here joining] at member
      exact .inl member

theorem Owned.move (owned : balancer.Owned) (running : balancer.run = some run)
    (moves : Moves balancer next run run')
    (pool : ThreadPool.Keeps balancer.pool next.pool) : next.Owned := by
  have only : ∀ {other : ShutdownRun}, next.run = some other → other = run' := by
    intro other isOther
    rw [moves.running, Option.some.injEq] at isOther
    exact isOther.symm
  have before : ∀ {other : ShutdownRun}, balancer.run = some other → other = run := by
    intro other isOther
    rw [running, Option.some.injEq] at isOther
    exact isOther.symm
  constructor
  · intro notYet
    have stillNot := notYet run' moves.running
    rw [moves.metricsTx stillNot]
    apply owned.metricsTx
    intro other isOther past
    rw [before isOther] at past
    exact stillNot (moves.follows.past past)
  · intro notYet
    have stillNot := notYet run' moves.running
    rw [moves.logTx stillNot]
    apply owned.logTx
    intro other isOther past
    rw [before isOther] at past
    exact stillNot (moves.follows.past past)
  · intro other isOther notYet
    rw [only isOther] at notYet ⊢
    have notBefore : ¬run.Past .takeHandles := fun past => notYet (moves.follows.past past)
    rw [moves.workers]
    · exact owned.untaken run running notBefore
    · intro here
      apply notYet
      right
      rw [(moves.taken here).1]
      decide
    · intro here
      apply notBefore
      right
      rw [here]
      decide
  · intro other isOther past
    rw [only isOther] at past
    by_cases here : run.point = .takeHandles
    · exact (moves.taken here).2.1
    · rw [moves.handles here]
      have earlier := moves.follows.past_cases (by decide) (.inr (by decide)) past
      rcases earlier with wasPast | ⟨now, _⟩
      · exact owned.taken run running wasPast
      · exact absurd now here
  · intro other isOther past
    rw [only isOther] at past ⊢
    exact owned.move_joined running moves past
  · intro worker spawned
    rw [pool.workers] at spawned
    rcases owned.held worker spawned with handle | ⟨other, isOther, member⟩ | gone
    · by_cases here : run.point = .takeHandles
      · right
        left
        exact ⟨run', moves.running, ((moves.taken here).2.2 worker).mpr handle⟩
      · left
        rw [moves.handles here]
        exact handle
    · rw [before isOther] at member
      right
      rcases owned.move_member running moves member with still | gone
      · exact .inl ⟨run', moves.running, still⟩
      · exact .inr (pool.gone worker gone)
    · exact .inr (.inr (pool.gone worker gone))

theorem owned_beginShutdown {kind : ShutdownKind} (owned : balancer.Owned)
    (begun : balancer.beginShutdown kind = some next) : next.Owned := by
  unfold beginShutdown at begun
  split at begun
  case isFalse => cases begun
  case isTrue free =>
      obtain ⟨idle, _, first⟩ := free
      cases begun
      have unknown : ∀ run, balancer.run ≠ some run := by
        rw [idle]
        exact nofun
      have nothingPast : ∀ {point : Point}, ¬(⟨kind, .signal, [], false, false⟩ : ShutdownRun).Past
          point := by
        rintro point (again | before)
        · exact first again
        · exact absurd before (Nat.not_lt_zero _)
      constructor
      · intro _
        exact owned.metricsTx fun run isRun => absurd isRun (unknown run)
      · intro _
        exact owned.logTx fun run isRun => absurd isRun (unknown run)
      · intro run isRun _
        cases isRun
        rfl
      · intro run isRun past
        cases isRun
        exact absurd past nothingPast
      · intro run isRun past
        cases isRun
        exact absurd past nothingPast
      · intro worker spawned
        rcases owned.held worker spawned with handle | ⟨run, isRun, _⟩ | gone
        · exact .inl handle
        · exact absurd isRun (unknown run)
        · exact .inr (.inr gone)

theorem owned_build {config : BalancerConfig} {logger : MzaniResult Unit}
    {startup : Record} (built : build config logger startup = .ok balancer) :
    balancer.Owned := by
  have serving := (build_ok built).2
  unfold build at built
  split at built
  · cases built
  dsimp only at built
  split at built
  · cases built
  case h_2 pool spawned =>
      cases built
      constructor
      · exact fun _ => rfl
      · exact fun _ => rfl
      · exact nofun
      · exact nofun
      · exact nofun
      · intro worker spawned
        left
        rw [serving.handles]
        simpa using spawned

theorem Reached.owned [DecidableEq Stream] (reached : Reached balancer) :
    balancer.Owned := by
  induction reached with
  | build built => exact owned_build built
  | step _ taken ih =>
      have pool := (poolSteps_step taken).keeps
      rcases step_cases taken with ⟨_, begun⟩ | ⟨_, _, _, _, running, moves⟩ | leaves
      · exact owned_beginShutdown ih begun
      · exact ih.move running moves pool
      · exact ih.leave leaves pool

end

end Balancer

end Mzani
