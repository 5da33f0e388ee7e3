import Mzani.Balancer.Completion
import Mzani.Balancer.Owner
import Mzani.Balancer.ServerRefinement

/-!
# Shutting down a running balancer

Shutdown may begin at any moment of a run.  When it is over, every record that
the log channel had accepted has been received by the writer, all statistics
have been received by the aggregator, and every connection that was given to the
pool has been handed to a call of `handle_connection`, refused by a worker, or
given back.
-/

namespace Mzani

open Support

variable {Stream Record Stats : Type}

/-- A stream in a pool whose workers have gone was handled, refused or given
back. -/
theorem ThreadPool.Invariant.count_of_gone [DecidableEq Stream] {capacity : Nat}
    {pool : ThreadPool Stream} {stream : Stream} (invariant : pool.Invariant capacity)
    (gone : ∀ lane ∈ pool.lanes, lane.worker = .exited) (idle : pool.calls = [])
    (submitted : stream ∈ pool.submitted) :
    (pool.handled.map Prod.fst ++ pool.refused.map Prod.fst ++
      pool.returned.map Prod.fst).count stream = 1 := by
  obtain ⟨place, once, elsewhere⟩ := invariant.conserving.exclusive.unique_place
    ((invariant.conserving.tracked stream).mp submitted)
  have absent (other : Place) (different : other ≠ place) :
      (pool.contents other).count stream = 0 :=
    List.count_eq_zero.mpr (elsewhere other different)
  change (pool.contents .handled ++ pool.contents .refused ++
    pool.contents .returned).count stream = 1
  rw [List.count_append, List.count_append]
  cases place with
  | handled => rw [once, absent .refused nofun, absent .returned nofun]
  | refused => rw [once, absent .handled nofun, absent .returned nofun]
  | returned => rw [once, absent .handled nofun, absent .refused nofun]
  | submitting =>
      rw [contents, idle] at once
      cases once
  | queued worker =>
      rw [invariant.wired.queue_eq_nil gone worker] at once
      cases once
  | moving worker =>
      have stopped : pool.contents (.moving worker) = [] := by
        simp only [contents]
        split
        case h_1 lane found =>
            rw [gone lane (List.mem_of_getElem? found)]
            rfl
        case h_2 => rfl
      rw [stopped] at once
      cases once

namespace Balancer

variable {balancer next : Balancer Stream Record Stats} {run : ShutdownRun}

/-! ## What the channels have accepted -/

/-- Nothing that a channel has accepted is taken back. -/
structure Grows (balancer next : Balancer Stream Record Stats) : Prop where
  log : balancer.log.Grows next.log
  metrics : balancer.metrics.Grows next.metrics

theorem Grows.refl (balancer : Balancer Stream Record Stats) : Grows balancer balancer :=
  ⟨.refl balancer.log, .refl balancer.metrics⟩

theorem Grows.same (log : next.log.accepted = balancer.log.accepted)
    (metrics : next.metrics.accepted = balancer.metrics.accepted) : Grows balancer next :=
  ⟨by rw [Channel.Grows, log], by rw [Channel.Grows, metrics]⟩

theorem Grows.trans {last : Balancer Stream Record Stats} (first : Grows balancer next)
    (second : Grows next last) : Grows balancer last :=
  ⟨first.log.trans second.log, first.metrics.trans second.metrics⟩

theorem grows_trySendLog (balancer : Balancer Stream Record Stats) (record : Record) :
    Grows balancer (balancer.trySendLog record) :=
  ⟨Channel.grows_trySendOrDrop balancer.log record, .refl balancer.metrics⟩

theorem grows_aggregate {record : Record} {due : Bool}
    (taken : balancer.aggregate record due = some next) : Grows balancer next := by
  unfold aggregate at taken
  split at taken
  · split at taken
    case h_1 stats metrics answer =>
        cases taken
        exact ⟨.refl balancer.log, (Channel.received_of_recv answer).grows⟩
    case h_2 =>
        cases taken
        exact .same rfl rfl
    case h_3 => cases taken
  · cases taken
    exact ⟨Channel.grows_trySendOrDrop balancer.log record, .refl balancer.metrics⟩
  · cases taken
    exact ⟨Channel.grows_trySendOrDrop balancer.log record, .refl balancer.metrics⟩
  · cases taken

theorem grows_write (taken : balancer.write = some next) : Grows balancer next := by
  unfold write at taken
  split at taken
  · split at taken
    case h_1 record log answer =>
        cases taken
        exact ⟨(Channel.received_of_recv answer).grows, .refl balancer.metrics⟩
    case h_2 =>
        cases taken
        exact .same rfl rfl
    case h_3 => cases taken
  · cases taken
    exact .same rfl rfl
  · cases taken

theorem grows_probe {record : Option Record} (taken : balancer.probe record = some next) :
    Grows balancer next := by
  unfold probe at taken
  split at taken
  case h_4 =>
      split at taken
      · cases taken
        exact .same rfl rfl
      case h_2 record =>
          cases taken
          exact ⟨Channel.grows_trySendOrDrop balancer.log record, .refl balancer.metrics⟩
  case h_2 =>
      cases taken
      exact .same rfl rfl
  case h_6 => cases taken
  all_goals
    split at taken <;> cases taken
    · exact .same rfl rfl
    · exact .same rfl rfl

theorem grows_join {thread : Thread} {run' : ShutdownRun}
    (taken : balancer.join thread run' = some next) : Grows balancer next := by
  obtain ⟨_, rfl⟩ := join_eq_some_iff.mp taken
  exact .same rfl rfl

theorem grows_clearSenders {point : Point}
    (taken : balancer.clearSenders run point = some next) : Grows balancer next := by
  unfold clearSenders at taken
  split at taken
  · obtain ⟨pool, _, rfl⟩ := Option.map_eq_some_iff.mp taken
    exact .same rfl rfl
  · obtain ⟨pool, _, rfl⟩ := Option.map_eq_some_iff.mp taken
    exact .same rfl rfl

theorem grows_shutdownStep {snapshot : Record}
    (taken : balancer.shutdownStep run snapshot = some next) : Grows balancer next := by
  unfold shutdownStep at taken
  cases point : run.point <;> simp only [point] at taken
  case joinHealth =>
      split at taken
      · obtain ⟨joined, hasJoined, rfl⟩ := Option.map_eq_some_iff.mp taken
        exact ⟨(grows_join hasJoined).log, (grows_join hasJoined).metrics⟩
      · cases taken
        exact .same rfl rfl
  case stopAccepting | stopThreads =>
      obtain ⟨pool, _, rfl⟩ := Option.map_eq_some_iff.mp taken
      exact .same rfl rfl
  case clearing | clearingThreads => exact grows_clearSenders taken
  case joinWorkers =>
      split at taken
      · cases taken
        exact .same rfl rfl
      · exact grows_join taken
  case detach =>
      cases taken
      unfold detach
      split
      · exact ⟨Channel.grows_dropSenderIf balancer.log _,
          Channel.grows_dropSenderIf balancer.metrics _⟩
      · exact .same rfl rfl
  case dropMetricsTx =>
      cases taken
      exact ⟨.refl balancer.log, Channel.grows_dropSenderIf balancer.metrics _⟩
  case dropLogTx =>
      cases taken
      exact ⟨Channel.grows_dropSenderIf balancer.log _, .refl balancer.metrics⟩
  case joinMetrics | joinLog =>
      split at taken
      · exact grows_join taken
      · cases taken
        exact .same rfl rfl
  case shutdownLog =>
      cases taken
      by_cases held : balancer.poolLogTx = true
      · simp only [held, if_true]
        exact .trans (grows_trySendLog balancer snapshot) (.same rfl rfl)
      · simp only [held, Bool.false_eq_true, if_false]
        exact .same rfl rfl
  case returned =>
      split at taken
      · cases taken
        exact .same rfl rfl
      · cases taken
  all_goals
    cases taken
    exact .same rfl rfl

theorem grows_step [DecidableEq Stream] {action : Action Stream Record Stats}
    (taken : balancer.step action = some next) : Grows balancer next := by
  cases action with
  | submit stream =>
      simp only [step] at taken
      split at taken
      · cases taken
      · obtain ⟨pool, _, rfl⟩ := Option.map_eq_some_iff.mp taken
        exact .same rfl rfl
  | advance call =>
      obtain ⟨pool, _, rfl⟩ := Option.map_eq_some_iff.mp taken
      exact .same rfl rfl
  | work worker =>
      obtain ⟨pool, _, _, _, ⟨_, _, rfl⟩ | ⟨_, _, rfl⟩⟩ := work_cases taken
      · exact .same rfl rfl
      · exact .same rfl rfl
  | emitLog user record =>
      simp only [step, emitLog] at taken
      split at taken <;> cases taken
      split
      · exact grows_trySendLog balancer record
      · exact .same rfl rfl
  | recordMetrics user stats =>
      simp only [step, recordMetrics] at taken
      split at taken <;> cases taken
      split
      · exact ⟨.refl balancer.log, Channel.grows_trySendOrDrop balancer.metrics stats⟩
      · exact .same rfl rfl
  | sendLog record =>
      simp only [step] at taken
      split at taken <;> cases taken
      exact grows_trySendLog balancer record
  | aggregate record due => exact grows_aggregate taken
  | write => exact grows_write taken
  | probe record => exact grows_probe taken
  | beginShutdown kind =>
      simp only [step, beginShutdown] at taken
      split at taken <;> cases taken
      exact .same rfl rfl
  | own snapshot =>
      simp only [step] at taken
      split at taken
      · cases taken
      · exact grows_shutdownStep taken
  | _ =>
      simp only [step] at taken
      split at taken <;> cases taken
      exact .same rfl rfl

theorem submitted_of_step [DecidableEq Stream] {action : Action Stream Record Stats}
    {stream : Stream} (sound : balancer.PoolSound) (taken : balancer.step action = some next)
    (submitted : stream ∈ balancer.pool.submitted) : stream ∈ next.pool.submitted := by
  rcases poolSteps_step taken with same | ⟨action, stepped⟩
  · rwa [same]
  · obtain ⟨capacity, invariant⟩ := sound.invariant
    exact ThreadPool.submitted_of_transfers
      (ThreadPool.transfers_of_step invariant.conserving.tracked stepped) submitted

/-- What a run keeps: what the channels have accepted, and what the pool was
given. -/
theorem kept_of_run [DecidableEq Stream] {actions : List (Action Stream Record Stats)}
    (sound : balancer.PoolSound) (run : machine.run balancer actions = some next) :
    next.PoolSound ∧ Grows balancer next ∧
      ∀ stream ∈ balancer.pool.submitted, stream ∈ next.pool.submitted := by
  apply Machine.run_induction (fun _ state => state.PoolSound ∧ Grows balancer state ∧
    ∀ stream ∈ balancer.pool.submitted, stream ∈ state.pool.submitted)
    ⟨sound, .refl balancer, fun _ => id⟩ _ run
  rintro _ state action after ⟨soundThen, grown, known⟩ taken
  refine ⟨soundThen.step taken, grown.trans (grows_step taken), fun stream member => ?_⟩
  exact submitted_of_step soundThen taken (known stream member)

/-! ## When shutdown is over -/

/-- Nothing is left behind: every thread has gone, the channels have delivered
all that they accepted, and each connection has gone one way only. -/
structure Drained (balancer last : Balancer Stream Record Stats) [DecidableEq Stream] :
    Prop where
  gone : ∀ thread, last.Spawned thread → last.hasExited thread = true
  log : balancer.log.accepted <+: last.log.received
  allLog : last.log.received = last.log.accepted
  metrics : balancer.metrics.accepted <+: last.metrics.received
  allMetrics : last.metrics.received = last.metrics.accepted
  connections : ∀ stream ∈ balancer.pool.submitted,
    (last.pool.handled.map Prod.fst ++ last.pool.refused.map Prod.fst ++
      last.pool.returned.map Prod.fst).count stream = 1
  refused : ∀ entry ∈ last.pool.refused, entry.2 = serviceUnavailable "shutting down"

theorem InRun.lane_gone (inRun : InRun balancer run) (returned : run.point = .returned) :
    ∀ lane ∈ balancer.pool.lanes, lane.worker = .exited := by
  intro lane member
  obtain ⟨worker, bound, rfl⟩ := List.getElem_of_mem member
  have past : run.Past .joinWorkers := .inr (by rw [returned]; decide)
  obtain ⟨lane, found, exited⟩ := inRun.workers_gone past bound
  rw [List.getElem?_eq_getElem bound, Option.some.injEq] at found
  rw [found, exited]

theorem drained_of_over [DecidableEq Stream] {kind : ShutdownKind}
    {actions : List (Action Stream Record Stats)} {last : Balancer Stream Record Stats}
    (sound : balancer.PoolSound) (begun : balancer.step (.beginShutdown kind) = some next)
    (inShutdown : InShutdown next) (ran : machine.run next actions = some last)
    (ended : last.Over) : Drained balancer last := by
  have whole : machine.run balancer (.beginShutdown kind :: actions) = some last :=
    Machine.run_cons_eq_some_iff.mpr ⟨next, begun, ran⟩
  obtain ⟨run, inRun⟩ := (inShutdown.of_run ran).inRun
  have returned : run.point = .returned := by
    obtain ⟨run', running, returned, _⟩ := ended
    rw [inRun.running, Option.some.injEq] at running
    rw [running, returned]
  obtain ⟨⟨⟨capacity, invariant⟩, _⟩, grown, known⟩ := kept_of_run sound whole
  have log := Channel.received_of_empty
    (inRun.plumbed.logReader (inRun.log_exited (.inr (by rw [returned]; decide)))).empty
  have metrics := Channel.received_of_empty
    (inRun.plumbed.metricsReader (inRun.metrics_exited (.inr (by rw [returned]; decide)))).empty
  exact
    { gone := fun thread spawned => inRun.finished returned spawned
      log := log ▸ grown.log
      allLog := log.symm
      metrics := metrics ▸ grown.metrics
      allMetrics := metrics.symm
      connections := fun stream member =>
        invariant.count_of_gone (inRun.lane_gone returned) inRun.alone.calls
          (known stream member)
      refused := invariant.disposed.refused }

end Balancer

namespace Server

variable [DecidableEq Stream] {σ τ : Type} [Read σ] [Read τ]
  {snapshotRecord : Metrics → LogRecord} {config : BalancerConfig}
  {openLog : String → MzaniResult Unit} {server next : Server Stream}
  {events : List (Event Stream σ τ)} {outputs : List (Output Stream)}

end Server

end Mzani
