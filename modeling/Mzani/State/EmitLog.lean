import Mzani.State.MetricsFlow

/-!
# A call of `emit_log`

The steps of `emit_log` together: it tries to send its record, and after it
perhaps a warning about drops.  No thread that sends or receives changes the
capacity of a channel or the number of its senders.
-/

namespace Mzani

open Support

namespace Observability

/-- `emit_log`, in one step. -/
def emitLog (state : Observability) (record : LogRecord) : Observability :=
  match state.emit (.sending record) with
  | (sent, none) => sent
  | (refused, some _) =>
      match refused.emit .counting with
      | (counted, some warning) => (counted.emit warning).1
      | (counted, none) => counted

/-- Both channels keep their capacities and their senders. -/
structure Linked (state next : Observability) : Prop where
  log : state.log.SameEnds next.log
  stats : state.stats.SameEnds next.stats

/-- Sending these records in turn has been tried, and nothing else has happened to
the channels and to the aggregator. -/
structure Sends (state next : Observability) (records : List LogRecord) : Prop where
  log : next.log = records.foldl Channel.trySendOrDrop state.log
  stats : next.stats = state.stats
  aggregator : next.aggregator = state.aggregator

variable {state next : Observability} {records : List LogRecord}

theorem Linked.refl (state : Observability) : Linked state state :=
  ⟨.refl state.log, .refl state.stats⟩

theorem Linked.trans {last : Observability} (first : Linked state next)
    (second : Linked next last) : Linked state last :=
  ⟨first.log.trans second.log, first.stats.trans second.stats⟩

/-! ## Records sent -/

theorem Sends.trans {last : Observability} {more : List LogRecord}
    (first : Sends state next records) (second : Sends next last more) :
    Sends state last (records ++ more) := by
  constructor
  · rw [second.log, first.log, List.foldl_append]
  · rw [second.stats, first.stats]
  · rw [second.aggregator, first.aggregator]

theorem Sends.linked (sends : Sends state next records) : Linked state next := by
  constructor
  · rw [sends.log]
    exact state.log.sameEnds_foldl records
  · rw [sends.stats]
    exact .refl state.stats

theorem Sends.holds (sends : Sends state next records) {count : Nat}
    (holds : state.log.Holds count) : next.log.Holds (count + records.length) := by
  rw [sends.log]
  exact holds.foldl records

theorem sends_send (state : Observability) (emitter : Emitter) (record : LogRecord) :
    Sends state (state.send emitter record) [record] := by
  constructor
  · unfold send
    rw [List.foldl_cons, List.foldl_nil, Channel.trySendOrDrop]
    cases state.log.trySend record <;> rfl
  · exact (sameStats_send emitter record).stats
  · exact (sameStats_send emitter record).aggregator

theorem sends_foldl (state : Observability) (emitter : Emitter) (records : List LogRecord) :
    Sends state (records.foldl (·.send emitter ·) state) records := by
  induction records generalizing state with
  | nil => exact ⟨rfl, rfl, rfl⟩
  | cons record records ih => exact (sends_send state emitter record).trans (ih _)

theorem sends_emit_sending (state : Observability) (record : LogRecord) :
    Sends state (state.emit (.sending record)).1 [record] := by
  constructor
  · unfold emit
    dsimp only
    rw [List.foldl_cons, List.foldl_nil, Channel.trySendOrDrop]
    cases state.log.trySend record <;> rfl
  · exact (sameStats_emit (.sending record)).stats
  · exact (sameStats_emit (.sending record)).aggregator

theorem sends_emitLog (state : Observability) (record : LogRecord) :
    ∃ warnings, Sends state (state.emitLog record) (record :: warnings) := by
  have first := sends_emit_sending state record
  unfold emitLog
  generalize state.emit (.sending record) = sending at first
  obtain ⟨sent, waiting⟩ := sending
  cases waiting with
  | none => exact ⟨[], first⟩
  | some waiting =>
      let counted : Observability := { sent with droppedLogs := sent.droppedLogs + 1 }
      have counting : Sends sent counted [] := ⟨rfl, rfl, rfl⟩
      by_cases due : 0 < sent.droppedLogs ∧ sent.droppedLogs.val % 100 = 0
      · let warning := logDropped (sent.droppedLogs + 1)
        have warned : Sends counted (counted.send .warning warning) [warning] :=
          sends_send counted .warning warning
        refine ⟨[warning], ?_⟩
        simp only [emit, if_pos due]
        exact first.trans (counting.trans warned)
      · refine ⟨[], ?_⟩
        simp only [emit, if_neg due]
        exact first.trans counting

theorem linked_emitLog (state : Observability) (record : LogRecord) :
    Linked state (state.emitLog record) := by
  obtain ⟨warnings, sends⟩ := sends_emitLog state record
  exact sends.linked

/-! ## Statistics and receivers -/

theorem stats_recordMetrics (state : Observability) (stats : RequestStats) :
    (state.recordMetrics stats).stats = state.stats.trySendOrDrop stats ∧
      (state.recordMetrics stats).log = state.log ∧
      (state.recordMetrics stats).aggregator = state.aggregator := by
  unfold recordMetrics Channel.trySendOrDrop
  cases state.stats.trySend stats with
  | sent channel => exact ⟨rfl, rfl, rfl⟩
  | full => exact ⟨rfl, rfl, rfl⟩
  | disconnected => exact ⟨rfl, rfl, rfl⟩

theorem linked_recordMetrics (state : Observability) (stats : RequestStats) :
    Linked state (state.recordMetrics stats) := by
  obtain ⟨sent, log, _⟩ := stats_recordMetrics state stats
  constructor
  · rw [log]
    exact .refl state.log
  · rw [sent]
    exact Channel.sameEnds_trySendOrDrop state.stats stats

theorem linked_write (written : state.write = some next) : Linked state next := by
  unfold write at written
  split at written
  case h_1 record log answer =>
      cases written
      exact ⟨(Channel.received_of_recv answer).sameEnds, .refl state.stats⟩
  case h_2 =>
      cases written
      exact ⟨⟨rfl, rfl⟩, .refl state.stats⟩
  case h_3 => cases written

theorem linked_aggregate {snapshotRecord : Metrics → LogRecord} {elapsed : Bool}
    (aggregated : state.aggregate snapshotRecord elapsed = some next) : Linked state next := by
  unfold aggregate at aggregated
  split at aggregated
  case h_1 =>
      split at aggregated
      case h_1 stats channel answer =>
          cases aggregated
          exact ⟨.refl state.log, (Channel.received_of_recv answer).sameEnds⟩
      case h_2 =>
          cases aggregated
          exact ⟨.refl state.log, ⟨rfl, rfl⟩⟩
      case h_3 => cases aggregated
  case h_2 stats _ =>
      cases aggregated
      exact ⟨.refl state.log, .refl state.stats⟩
  case h_3 stats due _ =>
      cases aggregated
      have sent := (sends_send state .aggregator
        (stats.toMetricsRecord ⟨stats.reqId, stats.workerId⟩)).linked
      exact ⟨sent.log, sent.stats⟩
  case h_4 =>
      cases aggregated
      have sent := (sends_send state .aggregator (snapshotRecord state.metrics)).linked
      exact ⟨sent.log, sent.stats⟩
  case h_5 => cases aggregated

/-- As long as there are senders, the writer waits for a record. -/
theorem queue_of_write (senders : state.log.senders ≠ 0) (written : state.write = some next) :
    ∃ record, state.log.queue = record :: next.log.queue := by
  unfold write at written
  split at written
  case h_1 record log answer =>
      cases written
      exact ⟨record, (Channel.received_of_recv answer).queue⟩
  case h_2 gone => exact absurd (Channel.recv_eq_disconnected_iff.mp gone).2 senders
  case h_3 => cases written

/-- The writer takes the first record. -/
theorem exists_write {record : LogRecord} {rest : List LogRecord}
    (queue : state.log.queue = record :: rest) :
    ∃ next, state.write = some next ∧ next.log.queue = rest := by
  obtain ⟨log, answer, left⟩ := Channel.exists_recv queue
  refine ⟨{ state with log }, ?_, left⟩
  rw [write, answer]

end Observability

end Mzani
