import Mzani.Balancer.ServerLog
import Mzani.Balancer.ServerRequests
import Mzani.State.MetricsTotals

/-!
# The metrics of a server

The snapshot for embedders over whole runs: it is that of the statistics that
the calls recorded, in order, without those that the full channel refused and
those that are still on their way, and of the connections that were rejected.
-/

namespace Mzani

open Support

variable {Stream : Type}

/-- The step answers a connection for which no worker had room. -/
def Output.rejects : Output Stream → Bool
  | .answered _ bytes => decide (bytes = serviceUnavailable "worker queue full")
  | _ => false

/-- `Balancer::metrics_snapshot`, with the lock not poisoned. -/
def Server.metricsSnapshot (server : Server Stream) : MetricsSnapshot :=
  server.observability.metrics.snapshot server.observability.droppedLogs

/-- The statistics that the aggregator has taken and not yet added up. -/
def Aggregating.untold : Aggregating → List RequestStats
  | .received stats => [stats]
  | _ => []

/-- Rejections are counted apart from requests. -/
theorem Metrics.recordAll_with_poolRejected (metrics : Metrics) (count : U64)
    (all : List RequestStats) :
    ({ metrics with poolRejected := count } : Metrics).recordAll all =
      { metrics.recordAll all with poolRejected := count } := by
  induction all generalizing metrics with
  | nil => rfl
  | cons stats all ih => exact ih (metrics.recordRequest stats)

namespace Observability

/-- Between the two states these statistics were recorded, those were added up,
so many connections were rejected, and the channel refused some statistics. -/
structure Meters (state next : Observability) (recorded added : List RequestStats)
    (rejections : Nat) (refused : List RequestStats) : Prop where
  stats : ∃ received, state.stats.Carries next.stats recorded received refused.length ∧
    added ++ next.aggregator.untold = state.aggregator.untold ++ received
  refusedStats : next.refusedStats = state.refusedStats ++ refused
  metrics : next.metrics =
    { state.metrics.recordAll added with
      poolRejected := state.metrics.poolRejected + Fin.ofNat u64Limit rejections }

variable {state next : Observability}

/-- A step that leaves the channel of statistics, its receiver and the metrics
alone. -/
theorem Meters.same (stats : next.stats = state.stats) (aggregator : next.aggregator.untold =
    state.aggregator.untold) (refusedStats : next.refusedStats = state.refusedStats)
    (metrics : next.metrics = state.metrics) : Meters state next [] [] 0 [] where
  stats := by
    refine ⟨[], ?_, by rw [aggregator, List.append_nil, List.nil_append]⟩
    rw [stats]
    exact .refl state.stats
  refusedStats := by rw [refusedStats, List.append_nil]
  metrics := by
    rw [metrics, Metrics.add_ofNat_zero]
    rfl

theorem Meters.refl (state : Observability) : Meters state state [] [] 0 [] :=
  .same rfl rfl rfl rfl

theorem Meters.trans {last : Observability} {recorded added more later : List RequestStats}
    {rejections others : Nat} {refused further : List RequestStats}
    (first : Meters state next recorded added rejections refused)
    (second : Meters next last more later others further) :
    Meters state last (recorded ++ more) (added ++ later) (rejections + others)
      (refused ++ further) where
  stats := by
    obtain ⟨received, carries, order⟩ := first.stats
    obtain ⟨receivedThen, carriesThen, orderThen⟩ := second.stats
    refine ⟨received ++ receivedThen, ?_, ?_⟩
    · rw [List.length_append]
      exact carries.trans carriesThen
    · rw [List.append_assoc, orderThen, ← List.append_assoc, order, List.append_assoc]
  refusedStats := by rw [second.refusedStats, first.refusedStats, List.append_assoc]
  metrics := by
    have both : state.metrics.recordAll (added ++ later) =
        (state.metrics.recordAll added).recordAll later := List.foldl_append
    rw [second.metrics, first.metrics, Metrics.recordAll_with_poolRejected, both,
      Metrics.ofNat_add, add_assoc]

theorem SameStats.meters (same : SameStats state next) : Meters state next [] [] 0 [] :=
  .same same.stats (by rw [same.aggregator]) same.refusedStats same.metrics

theorem meters_emitLog (state : Observability) (record : LogRecord) :
    Meters state (state.emitLog record) [] [] 0 [] := by
  have first := (@sameStats_emit state (.sending record)).meters
  unfold emitLog
  generalize state.emit (.sending record) = sending at first
  obtain ⟨middle, waiting⟩ := sending
  cases waiting with
  | none => exact first
  | some waiting =>
      have counting := (@sameStats_emit middle .counting).meters
      dsimp only
      generalize middle.emit .counting = counted at counting
      obtain ⟨last, warning⟩ := counted
      cases warning with
      | none => exact first.trans counting
      | some warning => exact (first.trans counting).trans (sameStats_emit warning).meters

theorem meters_foldl (state : Observability) (records : List LogRecord) :
    Meters state (records.foldl (·.send .sink ·) state) [] [] 0 [] := by
  induction records generalizing state with
  | nil => exact .refl state
  | cons record records ih => exact (sameStats_send .sink record).meters.trans (ih _)

theorem meters_recordMetrics (alive : state.stats.Alive) (stats : RequestStats) :
    ∃ refused, Meters state (state.recordMetrics stats) [stats] [] 0 refused := by
  have metrics : state.metrics = { state.metrics.recordAll [] with
      poolRejected := state.metrics.poolRejected + Fin.ofNat u64Limit 0 } := by
    rw [Metrics.add_ofNat_zero]
    rfl
  rcases alive.trySend stats with ⟨channel, sent, carries⟩ | full
  · refine ⟨[], ?_⟩
    rw [recordMetrics, sent]
    exact ⟨⟨[], carries, (List.append_nil _).symm⟩, (List.append_nil _).symm, metrics⟩
  · refine ⟨[stats], ?_⟩
    rw [recordMetrics, full]
    exact ⟨⟨[], Channel.carries_refused state.stats stats, (List.append_nil _).symm⟩, rfl, metrics⟩

theorem meters_recordPoolRejected (state : Observability) :
    Meters state { state with metrics := state.metrics.recordPoolRejected } [] [] 1 [] where
  stats := ⟨[], .refl state.stats, (List.append_nil _).symm⟩
  refusedStats := (List.append_nil _).symm
  metrics := rfl

theorem meters_aggregate {snapshotRecord : Metrics → LogRecord} {elapsed : Bool}
    (alive : state.stats.Alive) (taken : state.aggregate snapshotRecord elapsed = some next) :
    Meters state next [] state.aggregator.untold 0 [] := by
  have silent (metrics : Metrics) : metrics = { metrics.recordAll [] with
      poolRejected := metrics.poolRejected + Fin.ofNat u64Limit 0 } := by
    rw [Metrics.add_ofNat_zero]
    rfl
  unfold aggregate at taken
  split at taken
  case h_1 receiving =>
      have untold : state.aggregator.untold = [] := congrArg Aggregating.untold receiving
      split at taken
      case h_1 stats channel answer =>
          cases taken
          rw [untold]
          refine ⟨⟨[stats], (Channel.received_of_recv answer).carries, ?_⟩,
            (List.append_nil _).symm, silent state.metrics⟩
          rw [untold]
          rfl
      case h_2 gone => exact absurd (Channel.recv_eq_disconnected_iff.mp gone).2 alive.senders
      case h_3 => cases taken
  case h_2 stats received =>
      have untold : state.aggregator.untold = [stats] := congrArg Aggregating.untold received
      cases taken
      rw [untold]
      refine ⟨⟨[], .refl state.stats, ?_⟩, (List.append_nil _).symm, ?_⟩
      · rw [untold]
        rfl
      · rw [Metrics.add_ofNat_zero]
        rfl
  case h_3 stats due reporting =>
      have untold : state.aggregator.untold = [] := congrArg Aggregating.untold reporting
      cases taken
      have same := @sameStats_send state .aggregator
        (stats.toMetricsRecord ⟨stats.reqId, stats.workerId⟩)
      rw [untold]
      refine .same same.stats ?_ same.refusedStats same.metrics
      rw [untold]
      dsimp only
      split <;> rfl
  case h_4 snapshotting =>
      have untold : state.aggregator.untold = [] := congrArg Aggregating.untold snapshotting
      cases taken
      have same := @sameStats_send state .aggregator (snapshotRecord state.metrics)
      rw [untold]
      refine .same same.stats ?_ same.refusedStats same.metrics
      rw [untold]
      rfl
  case h_5 => cases taken

/-- The aggregator has nothing left to add up, if it has added up anything. -/
theorem untold_aggregate {snapshotRecord : Metrics → LogRecord} {elapsed : Bool}
    (taken : state.aggregate snapshotRecord elapsed = some next) :
    state.aggregator.untold = [] ∨ next.aggregator.untold = [] := by
  unfold aggregate at taken
  split at taken
  case h_1 receiving => exact .inl (congrArg Aggregating.untold receiving)
  case h_2 =>
      cases taken
      exact .inr rfl
  case h_3 reporting => exact .inl (congrArg Aggregating.untold reporting)
  case h_4 snapshotting => exact .inl (congrArg Aggregating.untold snapshotting)
  case h_5 => cases taken

/-- Every step of a server keeps the account of the metrics. -/
theorem Observes.meters {snapshotRecord : Metrics → LogRecord} {output : Output Stream}
    (observes : Observes snapshotRecord state output next) (alive : state.stats.Alive) :
    ∃ added refused,
      Meters state next output.records.toList added output.rejects.toNat refused ∧
        (added = [] ∨ added = state.aggregator.untold ∧ next.aggregator.untold = []) := by
  cases observes with
  | silent silent =>
      have quiet : output.rejects = false := by
        cases output with
        | answered stream bytes =>
            apply decide_eq_false
            intro full
            have sends := silent.sends
            rw [Output.sends, if_pos full] at sends
            cases sends
        | _ => rfl
      rw [silent.records, quiet]
      exact ⟨[], [], .refl state, .inl rfl⟩
  | logged record => exact ⟨[], [], meters_emitLog state record, .inl rfl⟩
  | emitted record => exact ⟨[], [], meters_emitLog state record, .inl rfl⟩
  | recorded stats =>
      obtain ⟨refused, meters⟩ := meters_recordMetrics alive stats
      exact ⟨[], refused, meters, .inl rfl⟩
  | rejected stream =>
      have full : (Output.answered stream (serviceUnavailable "worker queue full")).rejects =
          true := by simp [Output.rejects]
      rw [full]
      exact ⟨[], [], (meters_recordPoolRejected state).trans (meters_emitLog _ poolSaturated),
        .inl rfl⟩
  | aggregated taken =>
      have meters := meters_aggregate alive taken
      have neither : (Server.report snapshotRecord state : Output Stream).records = none ∧
          (Server.report snapshotRecord state : Output Stream).rejects = false := by
        unfold Server.report
        split <;> exact ⟨rfl, rfl⟩
      rw [neither.1, neither.2]
      refine ⟨_, [], meters, ?_⟩
      rcases untold_aggregate taken with nothing | rest
      · exact .inl nothing
      · exact .inr ⟨rfl, rest⟩
  | written taken =>
      have neither : (Server.written state : Output Stream).records = none ∧
          (Server.written state : Output Stream).rejects = false := by
        unfold Server.written
        split <;> exact ⟨rfl, rfl⟩
      rw [neither.1, neither.2]
      exact ⟨[], [], (sameStats_write taken).meters, .inl rfl⟩
  | probed probe records => exact ⟨[], [], meters_foldl state records, .inl rfl⟩

end Observability

/-! ## Whole runs -/

theorem filterMap_cons_toList {α β : Type} (pick : α → Option β) (first : α) (rest : List α) :
    (first :: rest).filterMap pick = (pick first).toList ++ rest.filterMap pick := by
  cases picked : pick first with
  | none => exact List.filterMap_cons_none picked
  | some value => exact List.filterMap_cons_some picked

theorem countP_cons_toNat {α : Type} (counts : α → Bool) (first : α) (rest : List α) :
    (first :: rest).countP counts = (counts first).toNat + rest.countP counts := by
  rw [List.countP_cons, Nat.add_comm]
  cases counts first <;> rfl

namespace Server

open Observability

variable {σ τ : Type} [DecidableEq Stream] [Read σ] [Read τ]
  {snapshotRecord : Metrics → LogRecord} {server next : Server Stream}
  {events : List (Event Stream σ τ)} {outputs : List (Output Stream)}

theorem meters_of_run (alive : server.observability.stats.Alive)
    (ran : (machine snapshotRecord).run server events = some (next, outputs)) :
    ∃ added refused, Meters server.observability next.observability
      (outputs.filterMap Output.records) added (outputs.countP Output.rejects) refused := by
  refine @Transducer.run_relates _ _ _ (machine snapshotRecord) server next events outputs
    (fun first last outputs => first.observability.stats.Alive →
      ∃ added refused, Meters first.observability last.observability
        (outputs.filterMap Output.records) added (outputs.countP Output.rejects) refused)
    ?_ ?_ ran alive
  · intro state _
    exact ⟨[], [], .refl state.observability⟩
  · intro state middle last event output rest taken later alive
    obtain ⟨added, refused, first, _⟩ := (observes_of_step taken).meters alive
    obtain ⟨received, carries, _⟩ := first.stats
    obtain ⟨addedThen, further, second⟩ := later (carries.alive alive)
    refine ⟨added ++ addedThen, refused ++ further, ?_⟩
    rw [filterMap_cons_toList, countP_cons_toNat]
    exact first.trans second

/-- One worker with room for one connection, and no retries. -/
def oneLane : BalancerConfig :=
  { backends := ⟨[.v4 localhost 9002], by decide⟩
    pool := { workers := 1, perWorkerQueue := 1 }
    maxBackendRetries := 0 }

/-- Of two connections the second one is rejected, and the request of the first
one fails. -/
def rejectedAndFailed : List (Event Nat Source Source) :=
  [.accept 7 fun _ => .ok (), .submit, .submit, .submit,
    .accept 8 fun _ => .ok (), .submit, .submit, .submit, .work 0, .work 0, .call 0 unreachable] ++
    List.replicate 9 (.work 0) ++ [.aggregate false, .aggregate false]

end Server

end Mzani
