import Mathlib.Data.Prod.Lex
import Mathlib.Order.WellFounded
import Mzani.Balancer.Owner
import Mzani.Balancer.SafeShutdown
import Mzani.Support.Measure

/-!
# Shutdown comes to its end

The owner runs only so many statements in a shutdown sequence, whatever the
threads do, and from every state of a sequence there is a way for the threads
and the owner to go on until the sequence returns: shutdown never deadlocks.
-/

namespace Mzani

open Support

variable {Stream Record Stats : Type}

/-- The steps of the owner. -/
def Action.isOwn : Action Stream Record Stats → Bool
  | .own _ => true
  | _ => false

/-- No step brings back a sender. -/
theorem ThreadPool.connectionTxs_of_steps {pool next : ThreadPool Stream}
    (steps : Steps pool next) : next.connectionTxs.length ≤ pool.connectionTxs.length := by
  cases steps with
  | advance advances => cases advances <;> exact le_rfl
  | work works => cases works <;> exact le_rfl
  | dropSender dropped =>
      rw [dropped.result, dropped.senders, List.length_cons]
      exact Nat.le_succ _
  | _ => exact le_rfl

namespace Balancer

variable {balancer next : Balancer Stream Record Stats} {run : ShutdownRun}

/-- Statements of the owner that are left at most, in the sequence and in the one
that the end of `Balancer::shutdown` begins. -/
def statements (balancer : Balancer Stream Record Stats) (run : ShutdownRun) : Nat :=
  (if run.kind = .shutdown then 17 else 0) + (16 - run.point.rank) +
    balancer.pool.connectionTxs.length + balancer.handles.length + run.workers.length

/-- The sequence has returned, and the balancer is gone. -/
def Over (balancer : Balancer Stream Record Stats) : Prop :=
  ∃ run, balancer.run = some run ∧ run.point = .returned ∧ run.kind ≠ .shutdown

theorem statements_next {run' : ShutdownRun} (kind : run'.kind = run.kind)
    (later : run.point.rank < run'.point.rank)
    (senders : next.pool.connectionTxs.length ≤ balancer.pool.connectionTxs.length)
    (handles : next.handles.length + run'.workers.length ≤
      balancer.handles.length + run.workers.length) :
    next.statements run' < balancer.statements run := by
  have last : run'.point.rank ≤ 16 := by cases run'.point <;> decide
  unfold statements
  rw [kind]
  omega

theorem statements_clearSenders {point : Point} (running : balancer.run = some run)
    (later : run.point.rank < point.rank)
    (taken : balancer.clearSenders run point = some next) :
    ∃ run', next.run = some run' ∧ next.statements run' < balancer.statements run := by
  unfold clearSenders at taken
  split at taken
  · obtain ⟨pool, stopped, rfl⟩ := Option.map_eq_some_iff.mp taken
    obtain ⟨_, rfl⟩ := ThreadPool.endStop_eq_some_iff.mp stopped
    exact ⟨{ run with point }, rfl, statements_next rfl later le_rfl le_rfl⟩
  · obtain ⟨pool, dropped, rfl⟩ := Option.map_eq_some_iff.mp taken
    obtain ⟨worker, lane, rest, dropped⟩ := ThreadPool.dropsSender_of_dropSender dropped
    have fewer : pool.connectionTxs.length + 1 = balancer.pool.connectionTxs.length := by
      rw [dropped.result, dropped.senders, List.length_cons]
    refine ⟨run, running, ?_⟩
    simp only [statements]
    omega

theorem handles_detach : balancer.detach.handles = balancer.handles := by
  unfold detach
  split <;> rfl

theorem statements_join {thread : Thread} {run' : ShutdownRun}
    (fewer : balancer.statements run' < balancer.statements run)
    (taken : balancer.join thread run' = some next) :
    ∃ run', next.run = some run' ∧ next.statements run' < balancer.statements run := by
  obtain ⟨_, rfl⟩ := join_eq_some_iff.mp taken
  exact ⟨run', rfl, fewer⟩

/-- A statement of the owner is one less. -/
theorem statements_shutdownStep {snapshot : Record} (running : balancer.run = some run)
    (taken : balancer.shutdownStep run snapshot = some next) :
    ∃ run', next.run = some run' ∧ next.statements run' < balancer.statements run := by
  have goes {after : Balancer Stream Record Stats} (point : Point)
      (later : run.point.rank < point.rank)
      (running : after.run = some { run with point })
      (senders : after.pool.connectionTxs = balancer.pool.connectionTxs)
      (handles : after.handles = balancer.handles) :
      ∃ run', after.run = some run' ∧ after.statements run' < balancer.statements run :=
    ⟨_, running, statements_next rfl later (by rw [senders]) (by rw [handles])⟩
  have joins {thread : Thread} {run' : ShutdownRun} (point : Point)
      (later : run.point.rank < point.rank)
      (joined : balancer.join thread run' = some next) (there : run'.point = point)
      (kind : run'.kind = run.kind) (workers : run'.workers = run.workers) :
      ∃ run', next.run = some run' ∧ next.statements run' < balancer.statements run :=
    statements_join (statements_next kind (there ▸ later) le_rfl (by rw [workers])) joined
  unfold shutdownStep at taken
  cases point : run.point <;> simp only [point] at taken
  case signal =>
      cases taken
      exact goes .stopHealth (by rw [point]; decide) rfl rfl rfl
  case stopHealth =>
      cases taken
      exact goes .joinHealth (by rw [point]; decide) rfl rfl rfl
  case joinHealth =>
      have later : run.point.rank <
          (if run.kind = .shutdown then Point.stopAccepting else .stopThreads).rank := by
        rw [point]
        split <;> decide
      split at taken
      · obtain ⟨joined, hasJoined, rfl⟩ := Option.map_eq_some_iff.mp taken
        obtain ⟨_, rfl⟩ := join_eq_some_iff.mp hasJoined
        exact goes _ later rfl rfl rfl
      · cases taken
        exact goes _ later rfl rfl rfl
  case stopAccepting =>
      obtain ⟨pool, begun, rfl⟩ := Option.map_eq_some_iff.mp taken
      obtain ⟨_, rfl⟩ := ThreadPool.beginStop_eq_some_iff.mp begun
      exact goes .clearing (by rw [point]; decide) rfl rfl rfl
  case clearing =>
      exact statements_clearSenders running (by rw [point]; decide) taken
  case grace =>
      cases taken
      exact goes .stopThreads (by rw [point]; decide) rfl rfl rfl
  case stopThreads =>
      obtain ⟨pool, begun, rfl⟩ := Option.map_eq_some_iff.mp taken
      obtain ⟨_, rfl⟩ := ThreadPool.beginStop_eq_some_iff.mp begun
      exact goes .clearingThreads (by rw [point]; decide) rfl rfl rfl
  case clearingThreads =>
      exact statements_clearSenders running (by rw [point]; decide) taken
  case takeHandles =>
      cases taken
      have later : run.point.rank < Point.joinWorkers.rank := by
        rw [point]
        decide
      refine ⟨_, rfl, statements_next rfl later le_rfl ?_⟩
      apply (Nat.zero_add _).trans_le
      exact (List.length_filterMap_le _ _).trans (Nat.le_add_right _ _)
  case joinWorkers =>
      split at taken
      · cases taken
        exact goes .detach (by rw [point]; decide) rfl rfl rfl
      case h_2 worker rest handles =>
          have fewer : balancer.statements { run with workers := rest } <
              balancer.statements run := by
            simp only [statements, handles, List.length_cons]
            omega
          rw [← point] at taken
          exact statements_join fewer taken
  case detach =>
      cases taken
      apply goes .dropMetricsTx (by rw [point]; decide) rfl
      · exact congrArg ThreadPool.connectionTxs pool_detach
      · exact handles_detach
  case dropMetricsTx =>
      cases taken
      exact goes .joinMetrics (by rw [point]; decide) rfl rfl rfl
  case joinMetrics =>
      split at taken
      · exact joins .shutdownLog (by rw [point]; decide) taken rfl rfl rfl
      · cases taken
        exact goes .shutdownLog (by rw [point]; decide) rfl rfl rfl
  case shutdownLog =>
      cases taken
      apply goes .dropLogTx (by rw [point]; decide) rfl
      · dsimp only
        split <;> rfl
      · dsimp only
        split <;> rfl
  case dropLogTx =>
      cases taken
      exact goes .joinLog (by rw [point]; decide) rfl rfl rfl
  case joinLog =>
      split at taken
      · exact joins .returned (by rw [point]; decide) taken rfl rfl rfl
      · cases taken
        exact goes .returned (by rw [point]; decide) rfl rfl rfl
  case returned =>
      split at taken
      case isTrue isShutdown =>
          cases taken
          refine ⟨_, rfl, ?_⟩
          simp only [statements, isShutdown, point, Point.rank]
          simp only [if_true, reduceCtorEq, if_false]
          omega
      case isFalse => cases taken

/-! ## Steps of the threads -/

/-- What is left to the owner, if a sequence is on. -/
def statementsLeft (balancer : Balancer Stream Record Stats) : Nat :=
  match balancer.run with
  | some run => balancer.statements run
  | none => 0

/-- What is left to the thread that the owner waits for. -/
def awaitedLeft (balancer : Balancer Stream Record Stats) : Nat :=
  match balancer.run.bind balancer.joining with
  | some thread => balancer.left thread
  | none => 0

theorem statementsLeft_of_run (running : balancer.run = some run) :
    balancer.statementsLeft = balancer.statements run := by
  rw [statementsLeft, running]

theorem awaitedLeft_of_joins {thread : Thread} (running : balancer.run = some run)
    (joins : Joins balancer run thread) : balancer.awaitedLeft = balancer.left thread := by
  rw [awaitedLeft, running, Option.bind_some, joining_of_joins joins]

section

variable [DecidableEq Stream]

theorem PoolSteps.connectionTxs_le (steps : PoolSteps balancer next) :
    next.pool.connectionTxs.length ≤ balancer.pool.connectionTxs.length := by
  rcases steps with same | ⟨action, stepped⟩
  · rw [same]
  · exact ThreadPool.connectionTxs_of_steps (ThreadPool.steps_of_step stepped)

/-- The owner's steps bring it closer to the end, and no step takes it further
away. -/
theorem statementsLeft_step {action : Action Stream Record Stats} (inRun : InRun balancer run)
    (taken : balancer.step action = some next) :
    next.statementsLeft ≤ balancer.statementsLeft ∧
      (action.isOwn = true → next.statementsLeft < balancer.statementsLeft) := by
  rw [statementsLeft_of_run inRun.running]
  cases own : action.isOwn with
  | true =>
      cases action with
      | own snapshot =>
          simp only [step, inRun.running] at taken
          obtain ⟨run', running, fewer⟩ := statements_shutdownStep inRun.running taken
          rw [statementsLeft_of_run running]
          exact ⟨fewer.le, fun _ => fewer⟩
      | _ => cases own
  | false =>
      refine ⟨?_, fun claimed => by cases claimed⟩
      rcases step_during_run inRun.running inRun.alone taken with
        ⟨snapshot, rfl, _⟩ | undisturbed
      · cases own
      · have senders := (poolSteps_step taken).connectionTxs_le
        rw [statementsLeft_of_run (undisturbed.run.trans inRun.running)]
        simp only [statements, undisturbed.handles]
        omega

theorem lowers_statements :
    (machine : Machine (Balancer Stream Record Stats) _).Lowers
      (fun action => action.isOwn = true) InShutdown statementsLeft where
  preserves := fun _ _ _ inShutdown taken => inShutdown.step taken
  decreases := fun _ _ _ inShutdown own taken => by
    obtain ⟨run, inRun⟩ := inShutdown.inRun
    exact (statementsLeft_step inRun taken).2 own
  others := fun _ _ _ inShutdown taken => by
    obtain ⟨run, inRun⟩ := inShutdown.inRun
    exact (statementsLeft_step inRun taken).1

/-! ## The end of a sequence -/

/-- Until the sequence is over, the owner can go on, or the thread that it waits
for can. -/
theorem exists_closer (inShutdown : InShutdown balancer) (notOver : ¬balancer.Over) :
    ∃ action next, machine.step balancer action = some next ∧ InShutdown next ∧
      toLex (next.statementsLeft, next.awaitedLeft) <
        toLex (balancer.statementsLeft, balancer.awaitedLeft) := by
  obtain ⟨run, inRun⟩ := inShutdown.inRun
  obtain ⟨record⟩ := inShutdown.nonempty
  by_cases waits : ∃ thread, Joins balancer run thread ∧ balancer.hasExited thread = false
  · obtain ⟨thread, joins, stays⟩ := waits
    obtain ⟨action, next, own, taken⟩ :=
      enabled_of_abandoned record (inRun.abandoned joins) stays
    obtain ⟨run', inRunThen, joinsThen⟩ := inRun.awaited_step joins stays taken
    have closer := (left_step inRun joins stays taken).2 own
    have notMore := (statementsLeft_step inRun taken).1
    rw [← awaitedLeft_of_joins inRun.running joins,
      ← awaitedLeft_of_joins inRunThen.running joinsThen] at closer
    refine ⟨action, next, taken, inShutdown.step taken, Prod.Lex.toLex_lt_toLex.mpr ?_⟩
    rcases notMore.lt_or_eq with fewer | same
    · exact .inl fewer
    · exact .inr ⟨same, closer⟩
  · have exited : ∀ thread, balancer.joining run = some thread →
        balancer.hasExited thread = true := by
      intro thread joins
      by_contra stays
      exact waits ⟨thread, joins_of_joining joins, Bool.eq_false_iff.mpr stays⟩
    have unfinished : run.point = .returned → run.kind = .shutdown := by
      intro returned
      by_contra other
      exact notOver ⟨run, inRun.running, returned, other⟩
    obtain ⟨next, owned⟩ : ∃ next, balancer.shutdownStep run record = some next :=
      inRun.goesOn exited unfinished
    have taken : balancer.step (.own record) = some next := by
      rw [step, inRun.running]
      exact owned
    have fewer := (statementsLeft_step inRun taken).2 rfl
    exact ⟨.own record, next, taken, inShutdown.step taken,
      Prod.Lex.toLex_lt_toLex.mpr (.inl fewer)⟩

theorem exists_over (inShutdown : InShutdown balancer) :
    ∃ actions final, machine.run balancer actions = some final ∧ InShutdown final ∧ final.Over :=
  Machine.exists_run_of_measure
    (fun state : Balancer Stream Record Stats => toLex (state.statementsLeft, state.awaitedLeft))
    (fun _ => exists_closer) inShutdown

/-- The pool has no more senders than workers. -/
theorem Reached.connectionTxs_le (reached : Reached balancer) :
    balancer.pool.connectionTxs.length ≤ balancer.pool.lanes.length := by
  induction reached with
  | @build config logger startup balancer built =>
      unfold Balancer.build at built
      split at built
      · cases built
      dsimp only at built
      split at built
      · cases built
      case h_2 pool spawned =>
          cases built
          obtain ⟨positive, rfl⟩ := ThreadPool.new_ok spawned
          simp [ThreadPool.spawn]
  | step _ taken ih =>
      have steps := poolSteps_step taken
      rw [steps.keeps.workers]
      exact steps.connectionTxs_le.trans ih

theorem Reached.statementsLeft_le {kind : ShutdownKind} (reached : Reached balancer)
    (begun : balancer.beginShutdown kind = some next) :
    next.statementsLeft ≤ 35 + 2 * balancer.pool.lanes.length := by
  have serving := reached.invariant.2
  have senders := reached.connectionTxs_le
  unfold beginShutdown at begun
  split at begun
  case isTrue idle =>
      cases begun
      have handles := congrArg List.length (serving idle.1).handles
      simp only [List.length_cons, List.length_map, List.length_range] at handles
      simp only [statementsLeft, statements, Point.rank, handles, List.length_nil]
      split <;> omega
  case isFalse => cases begun

/-- Shutdown comes to its end: in every run the owner has only so many
statements to run, and from wherever the threads have got to there is a way to
the end. -/
theorem shutdown_ends {kind : ShutdownKind} {actions : List (Action Stream Record Stats)}
    {final : Balancer Stream Record Stats}
    (reached : Reached balancer) (noContext : balancer.contextHandles = 0)
    (noLog : balancer.logHandles = 0) (begun : balancer.beginShutdown kind = some next)
    (run : machine.run next actions = some final) :
    actions.countP (·.isOwn) ≤ 35 + 2 * balancer.pool.lanes.length ∧
      ∃ more last, machine.run final more = some last ∧ last.Over := by
  have inShutdown : InShutdown next := .begin reached noContext noLog begun
  constructor
  · have bound := lowers_statements.steps_le inShutdown run
    have atFirst := reached.statementsLeft_le begun
    simp only [Bool.decide_eq_true] at bound
    omega
  · obtain ⟨more, last, ran, _, ended⟩ := exists_over (inShutdown.of_run run)
    exact ⟨more, last, ran, ended⟩

end

/-- A worker is joined while a stream is in its queue. -/
theorem shutdown_ends_queued :
    ∃ final : Balancer Nat Nat Nat, final.run.isSome = true ∧
      (toJoin.countP (·.isOwn)) ≤ 37 ∧
      ∃ more last, machine.run final more = some last ∧ last.Over := by
  obtain ⟨built, isBuilt⟩ : ∃ built : Balancer Nat Nat Nat,
    build smallConfig (.ok ()) 0 = .ok built := ⟨_, rfl⟩
  obtain ⟨serving, served, noContext, noLog, workers, begun, begins⟩ : ∃ serving,
      machine.run built oneQueued = some serving ∧ serving.contextHandles = 0 ∧
        serving.logHandles = 0 ∧ serving.pool.lanes.length = 1 ∧
        ∃ begun, serving.beginShutdown .shutdown = some begun := by
    cases isBuilt
    exact ⟨_, rfl, rfl, rfl, rfl, _, rfl⟩
  obtain ⟨final, taken, running⟩ : ∃ final,
      machine.run begun toJoin = some final ∧ final.run.isSome = true := by
    cases isBuilt
    cases served
    cases begins
    exact ⟨_, rfl, rfl⟩
  have reached := (Reached.build isBuilt).of_run served
  have ends := shutdown_ends reached noContext noLog begins taken
  rw [workers] at ends
  exact ⟨final, running, ends⟩

end Balancer

end Mzani
