import Mzani.Balancer.Server
import Mzani.Support.Carriage

/-!
# The log of a server

What the steps of a server do to its channels, to its metrics and to its counts,
and from it the log over whole runs: a record is written at most once, in the
order of sending, after the record of the start, unless the full channel refused
it.
-/

namespace Mzani

open Support

variable {Stream : Type}

namespace Output

/-- The records that a step sends, a warning about drops apart. -/
def sends : Output Stream → List LogRecord
  | .answered _ bytes =>
      if bytes = serviceUnavailable "worker queue full" then [poolSaturated] else []
  | .logged record => [record]
  | .performed (.emitLog record) => [record]
  | .probed _ records => records
  | .reported record => [record]
  | _ => []

def writes : Output Stream → Option LogRecord
  | .wrote record => some record
  | _ => none

/-- The statistics that a step records. -/
def records : Output Stream → Option RequestStats
  | .performed (.recordMetrics stats) => some stats
  | _ => none

/-- The output of a step that has nothing to do with the channels. -/
structure Silent (output : Output Stream) : Prop where
  sends : output.sends = []
  writes : output.writes = none
  records : output.records = none

end Output

namespace Observability

/-- What a step of the server with this output does to the observability. -/
inductive Observes (snapshotRecord : Metrics → LogRecord) :
    Observability → Output Stream → Observability → Prop where
  | silent {state : Observability} {output : Output Stream} (silent : output.Silent) :
      Observes snapshotRecord state output state
  | logged {state : Observability} (record : LogRecord) :
      Observes snapshotRecord state (.logged record) (state.emitLog record)
  | emitted {state : Observability} (record : LogRecord) :
      Observes snapshotRecord state (.performed (.emitLog record)) (state.emitLog record)
  | recorded {state : Observability} (stats : RequestStats) :
      Observes snapshotRecord state (.performed (.recordMetrics stats)) (state.recordMetrics stats)
  | rejected {state : Observability} (stream : Stream) :
      Observes snapshotRecord state
        (.answered stream (serviceUnavailable "worker queue full"))
        ({ state with metrics := state.metrics.recordPoolRejected }.emitLog poolSaturated)
  | aggregated {state next : Observability} {elapsed : Bool}
      (taken : state.aggregate snapshotRecord elapsed = some next) :
      Observes snapshotRecord state (Server.report snapshotRecord state) next
  | written {state next : Observability} (taken : state.write = some next) :
      Observes snapshotRecord state (Server.written state) next
  | probed {state : Observability} (probe : Probe) (records : List LogRecord) :
      Observes snapshotRecord state (.probed probe records)
        (records.foldl (·.send .sink ·) state)

end Observability

namespace Server

open Observability

theorem silent_answered {stream : Stream} {bytes : Bytes}
    (other : bytes ≠ serviceUnavailable "worker queue full") :
    (Output.answered stream bytes).Silent :=
  ⟨if_neg other, rfl, rfl⟩

theorem shuttingDown_ne_queueFull :
    serviceUnavailable "shutting down" ≠ serviceUnavailable "worker queue full" := by
  decide +kernel

section

variable {σ τ : Type} [Read σ] [Read τ] {snapshotRecord : Metrics → LogRecord}
  {server next : Server Stream} {output : Output Stream}

theorem observes_reject {observability : Observability} (stream : Stream) (error : MzaniError)
    (same : server.observability = observability) :
    Observes snapshotRecord observability (server.reject stream error).2
      (server.reject stream error).1.observability := by
  subst same
  cases error with
  | poolFull => exact .rejected stream
  | shutdownInProgress => exact .silent (silent_answered shuttingDown_ne_queueFull)
  | _ => exact .logged _

theorem observes_accept [DecidableEq Stream] {stream : Stream}
    {setReadTimeout : Duration → Except IoError Unit}
    (taken : server.accept stream setReadTimeout = some (next, output)) :
    Observes snapshotRecord server.observability output next.observability := by
  unfold accept at taken
  split at taken
  · cases taken
  · split at taken
    · cases taken
      exact .logged _
    · split at taken
      · cases taken
        exact .silent (silent_answered shuttingDown_ne_queueFull)
      · obtain ⟨pool, entered, same⟩ := Option.map_eq_some_iff.mp taken
        cases same
        exact .silent ⟨rfl, rfl, rfl⟩

theorem observes_submit (taken : server.submit = some (next, output)) :
    Observes snapshotRecord server.observability output next.observability := by
  unfold submit at taken
  split at taken
  case h_1 => cases taken
  case h_2 pool advanced =>
      split at taken
      · cases taken
        exact .silent ⟨rfl, rfl, rfl⟩
      case h_2 stream error _ _ =>
        have rejected := @observes_reject _ snapshotRecord { server with pool } _ stream error rfl
        rw [Option.some.inj taken] at rejected
        exact rejected

theorem observes_goOn {worker : Nat} {task : Task}
    (taken : server.goOn worker task = some (next, output)) :
    Observes snapshotRecord server.observability output next.observability := by
  cases task with
  | done result =>
      obtain ⟨pool, worked, same⟩ := Option.map_eq_some_iff.mp taken
      cases same
      exact .silent ⟨rfl, rfl, rfl⟩
  | perform effect rest =>
      cases taken
      cases effect with
      | emitLog record => exact .emitted record
      | recordMetrics stats => exact .recorded stats
      | _ => exact .silent ⟨rfl, rfl, rfl⟩
  | select rest =>
      cases taken
      exact .silent ⟨rfl, rfl, rfl⟩

theorem silent_refusal (pool : ThreadPool Stream) (worker : Nat) :
    (refusal pool worker).Silent := by
  unfold refusal
  split
  · exact silent_answered shuttingDown_ne_queueFull
  · exact ⟨rfl, rfl, rfl⟩

theorem observes_work {worker : Nat} (taken : server.work worker = some (next, output)) :
    Observes snapshotRecord server.observability output next.observability := by
  unfold work at taken
  split at taken
  · exact observes_goOn taken
  · split at taken
    · cases taken
    · obtain ⟨pool, worked, same⟩ := Option.map_eq_some_iff.mp taken
      cases same
      exact .silent (silent_refusal server.pool worker)

theorem observes_call {worker : Nat} {meets : Meets σ τ}
    (taken : server.call worker meets = some (next, output)) :
    Observes snapshotRecord server.observability output next.observability := by
  unfold call at taken
  split at taken
  · obtain ⟨pool, worked, same⟩ := Option.map_eq_some_iff.mp taken
    cases same
    exact .silent ⟨rfl, rfl, rfl⟩
  · cases taken

theorem observes_watch (connects : Duration → Bool) :
    Observes snapshotRecord server.observability (server.watch connects).2
      (server.watch connects).1.observability := by
  unfold watch
  split
  · exact .silent ⟨rfl, rfl, rfl⟩
  · exact .silent ⟨rfl, rfl, rfl⟩
  · exact .probed _ _
  · split
    · exact .silent ⟨rfl, rfl, rfl⟩
    · exact .silent ⟨rfl, rfl, rfl⟩

/-- All that a step of the server can do to the observability. -/
theorem observes_of_step [DecidableEq Stream] {event : Event Stream σ τ}
    (taken : server.step snapshotRecord event = some (next, output)) :
    Observes snapshotRecord server.observability output next.observability := by
  cases event with
  | accept stream setReadTimeout => exact observes_accept taken
  | acceptError error =>
      simp only [step] at taken
      split at taken
      · cases taken
        exact .logged _
      · cases taken
  | submit => exact observes_submit taken
  | work worker => exact observes_work taken
  | call worker meets => exact observes_call taken
  | aggregate elapsed =>
      obtain ⟨observability, aggregated, same⟩ := Option.map_eq_some_iff.mp taken
      cases same
      exact .aggregated aggregated
  | write =>
      obtain ⟨observability, written, same⟩ := Option.map_eq_some_iff.mp taken
      cases same
      exact .written written
  | monitor connects =>
      have watched := @observes_watch _ snapshotRecord server connects
      rw [Option.some.inj taken] at watched
      exact watched

end

end Server

/-! ## Records sent, refused and written -/

namespace Observability

/-- Between the two states the first records were sent and the second ones were
written.  The emitters of refused records are remembered, and those of `emit_log`
are counted. -/
structure Logs (state next : Observability) (sent written : List LogRecord)
    (refused : List Emitter) : Prop where
  log : state.log.Carries next.log sent written (refused.countP (· ≠ .warning))
  refusedLogs : next.refusedLogs = state.refusedLogs ++ refused
  droppedLogs : next.droppedLogs =
    state.droppedLogs + Fin.ofNat u64Limit (refused.count .context)

variable {state next : Observability}

theorem Logs.same (log : next.log = state.log) (refusedLogs : next.refusedLogs = state.refusedLogs)
    (droppedLogs : next.droppedLogs = state.droppedLogs) : Logs state next [] [] [] where
  log := by
    rw [log]
    exact .refl state.log
  refusedLogs := by rw [refusedLogs, List.append_nil]
  droppedLogs := by
    rw [droppedLogs]
    exact (Metrics.add_ofNat_zero _).symm

theorem Logs.refl (state : Observability) : Logs state state [] [] [] :=
  .same rfl rfl rfl

theorem Logs.trans {last : Observability} {sent written more later : List LogRecord}
    {refused further : List Emitter} (first : Logs state next sent written refused)
    (second : Logs next last more later further) :
    Logs state last (sent ++ more) (written ++ later) (refused ++ further) where
  log := by
    rw [List.countP_append]
    exact first.log.trans second.log
  refusedLogs := by rw [second.refusedLogs, first.refusedLogs, List.append_assoc]
  droppedLogs := by
    rw [second.droppedLogs, first.droppedLogs, List.count_append, Metrics.ofNat_add, add_assoc]

theorem logs_send (alive : state.log.Alive) {emitter : Emitter} (record : LogRecord)
    (uncounted : emitter ≠ .context) (noWarning : emitter ≠ .warning) :
    ∃ refused, Logs state (state.send emitter record) [record] [] refused := by
  rcases alive.trySend record with ⟨log, sent, carries⟩ | full
  · rw [send, sent]
    exact ⟨[], carries, (List.append_nil _).symm, (Metrics.add_ofNat_zero _).symm⟩
  · rw [send, full]
    refine ⟨[emitter], ?_, rfl, ?_⟩
    · rw [List.countP_singleton, if_pos (decide_eq_true noWarning)]
      exact Channel.carries_refused state.log record
    · rw [List.count_singleton, if_neg (by simpa using uncounted)]
      exact (Metrics.add_ofNat_zero _).symm

theorem logs_foldl (alive : state.log.Alive) (records : List LogRecord) :
    ∃ refused, Logs state (records.foldl (·.send .sink ·) state) records [] refused := by
  induction records generalizing state with
  | nil => exact ⟨[], .refl state⟩
  | cons record records ih =>
      obtain ⟨refused, first⟩ := logs_send alive record (by decide : Emitter.sink ≠ .context)
        (by decide)
      obtain ⟨further, rest⟩ := ih (first.log.alive alive)
      exact ⟨refused ++ further, first.trans rest⟩

/-- The warning about drops finds the channel as full as the record before it. -/
theorem logs_emitLog (alive : state.log.Alive) (record : LogRecord) :
    ∃ refused, Logs state (state.emitLog record) [record] [] refused := by
  rcases alive.trySend record with ⟨log, sent, carries⟩ | full
  · refine ⟨[], ?_⟩
    have sending : state.emit (.sending record) = ({ state with log }, none) := by
      simp only [emit, sent]
    rw [emitLog, sending]
    exact ⟨carries, (List.append_nil _).symm, (Metrics.add_ofNat_zero _).symm⟩
  · let refusing : Observability := { state with refusedLogs := state.refusedLogs ++ [.context] }
    let counted : Observability := { refusing with droppedLogs := state.droppedLogs + 1 }
    have counts : Logs state counted [record] [] [.context] :=
      ⟨Channel.carries_refused state.log record, rfl, rfl⟩
    have sending : state.emit (.sending record) = (refusing, some .counting) := by
      simp only [emit, full]
      rfl
    by_cases due : 0 < state.droppedLogs ∧ state.droppedLogs.val % 100 = 0
    · have counting : refusing.emit .counting = (counted, some (.warning state.droppedLogs)) := by
        simp only [emit, refusing, if_pos due]
        rfl
      have fullStill : counted.log.trySend (logDropped (state.droppedLogs + 1)) = .full :=
        Channel.trySend_eq_full_iff.mpr (Channel.trySend_eq_full_iff.mp full)
      have warned : Logs counted (counted.send .warning (logDropped (state.droppedLogs + 1)))
          [] [] [.warning] := by
        rw [send, fullStill]
        exact ⟨.refl counted.log, rfl, (Metrics.add_ofNat_zero _).symm⟩
      refine ⟨[.context, .warning], ?_⟩
      rw [emitLog, sending]
      dsimp only
      rw [counting]
      exact counts.trans warned
    · have counting : refusing.emit .counting = (counted, none) := by
        simp only [emit, refusing, if_neg due]
        rfl
      refine ⟨[.context], ?_⟩
      rw [emitLog, sending]
      dsimp only
      rw [counting]
      exact counts

theorem logs_write (alive : state.log.Alive) (taken : state.write = some next) :
    ∃ record, (Server.written state : Output Stream) = .wrote record ∧
      Logs state next [] [record] [] := by
  unfold write at taken
  split at taken
  case h_1 record log answer =>
      cases taken
      have received := Channel.received_of_recv answer
      refine ⟨record, ?_, received.carries, (List.append_nil _).symm,
        (Metrics.add_ofNat_zero _).symm⟩
      rw [Server.written, received.queue]
  case h_2 gone => exact absurd (Channel.recv_eq_disconnected_iff.mp gone).2 alive.senders
  case h_3 => cases taken

theorem logs_recordMetrics (state : Observability) (stats : RequestStats) :
    Logs state (state.recordMetrics stats) [] [] [] := by
  unfold recordMetrics
  split <;> exact .same rfl rfl rfl

theorem logs_aggregate {snapshotRecord : Metrics → LogRecord} {elapsed : Bool}
    (alive : state.log.Alive) (taken : state.aggregate snapshotRecord elapsed = some next) :
    ∃ refused, Logs state next (Server.report snapshotRecord state : Output Stream).sends
      (Server.report snapshotRecord state : Output Stream).writes.toList refused := by
  have uncounted : Emitter.aggregator ≠ .context := by decide
  have noWarning : Emitter.aggregator ≠ .warning := by decide
  unfold aggregate at taken
  split at taken
  case h_1 receiving =>
      rw [Server.report, receiving]
      split at taken
      · cases taken
        exact ⟨[], .same rfl rfl rfl⟩
      · cases taken
        exact ⟨[], .same rfl rfl rfl⟩
      · cases taken
  case h_2 stats received =>
      cases taken
      rw [Server.report, received]
      exact ⟨[], .same rfl rfl rfl⟩
  case h_3 stats due reporting =>
      cases taken
      rw [Server.report, reporting]
      obtain ⟨refused, logs⟩ := logs_send alive (stats.toMetricsRecord ⟨stats.reqId, stats.workerId⟩)
        uncounted noWarning
      exact ⟨refused, logs.log, logs.refusedLogs, logs.droppedLogs⟩
  case h_4 snapshotting =>
      cases taken
      rw [Server.report, snapshotting]
      obtain ⟨refused, logs⟩ := logs_send alive (snapshotRecord state.metrics) uncounted noWarning
      exact ⟨refused, logs.log, logs.refusedLogs, logs.droppedLogs⟩
  case h_5 => cases taken

/-- Every step of a server keeps the account of the log. -/
theorem Observes.logs {snapshotRecord : Metrics → LogRecord} {output : Output Stream}
    (observes : Observes snapshotRecord state output next) (alive : state.log.Alive) :
    ∃ refused, Logs state next output.sends output.writes.toList refused := by
  cases observes with
  | silent silent =>
      rw [silent.sends, silent.writes]
      exact ⟨[], .refl state⟩
  | logged record => exact logs_emitLog alive record
  | emitted record => exact logs_emitLog alive record
  | recorded stats => exact ⟨[], logs_recordMetrics state stats⟩
  | rejected stream =>
      let counted : Observability :=
        { state with metrics := state.metrics.recordPoolRejected }
      obtain ⟨refused, logs⟩ := @logs_emitLog counted alive poolSaturated
      exact ⟨refused, logs.log, logs.refusedLogs, logs.droppedLogs⟩
  | aggregated taken => exact logs_aggregate alive taken
  | written taken =>
      obtain ⟨record, shown, logs⟩ := logs_write alive taken
      rw [shown]
      exact ⟨[], logs⟩
  | probed probe records => exact logs_foldl alive records

end Observability

/-! ## Whole runs -/

namespace Server

open Observability

section

variable {config : BalancerConfig} {openLog : String → MzaniResult Unit} {server : Server Stream}

/-- At the start only the log has changed, which holds the first record. -/
theorem observability_of_build (built : build config openLog = .ok server) :
    ∃ valid log, server.observability = { spawn config.pool valid 0 with log } := by
  unfold build at built
  split at built
  · cases built
  case h_2 valid =>
      have poolValid := ((BalancerConfig.validate_eq_ok_iff config).mp valid).2.2.2
      obtain ⟨logPositive, _⟩ := channels_positive poolValid
      obtain ⟨log, sent, _⟩ :=
        (Channel.open_sync logPositive).cloneSender.cloneSender.trySend logPositive
          (serverStart config.listen (BackendSet.new config.backends).addresses
            config.pool.workers.val)
      have sending : (spawn config.pool poolValid 0).log.trySend
          (serverStart config.listen (BackendSet.new config.backends).addresses
            config.pool.workers.val) = .sent log := sent
      simp only [RoutedContext.fromConfig, valid] at built
      dsimp only [bind, Except.bind] at built
      split at built
      · cases built
      case h_2 pool created =>
          cases built
          refine ⟨poolValid, log.cloneSender, ?_⟩
          dsimp only [RoutedContext.targetServers, start, send]
          rw [sending]

end

variable {σ τ : Type} [DecidableEq Stream] [Read σ] [Read τ]
  {snapshotRecord : Metrics → LogRecord} {server next : Server Stream}
  {events : List (Event Stream σ τ)} {outputs : List (Output Stream)}

theorem logs_of_run (alive : server.observability.log.Alive)
    (ran : (machine snapshotRecord).run server events = some (next, outputs)) :
    ∃ refused, Logs server.observability next.observability (outputs.flatMap Output.sends)
      (outputs.filterMap Output.writes) refused := by
  refine @Transducer.run_relates _ _ _ (machine snapshotRecord) server next events outputs
    (fun first last outputs => first.observability.log.Alive →
      ∃ refused, Logs first.observability last.observability (outputs.flatMap Output.sends)
        (outputs.filterMap Output.writes) refused) ?_ ?_ ran alive
  · intro state _
    exact ⟨[], .refl state.observability⟩
  · intro state middle last event output rest taken later alive
    obtain ⟨refused, first⟩ := (observes_of_step taken).logs alive
    obtain ⟨further, logs⟩ := later (first.log.alive alive)
    refine ⟨refused ++ further, ?_⟩
    have whole := first.trans logs
    cases written : output.writes with
    | none =>
        rw [List.filterMap_cons_none written, List.flatMap_cons]
        rw [written] at whole
        exact whole
    | some record =>
        rw [List.filterMap_cons_some written, List.flatMap_cons]
        rw [written] at whole
        exact whole

/-- The dropped records are the refused ones of `emit_log`. -/
theorem droppedLogs_of_run {config : BalancerConfig} {openLog : String → MzaniResult Unit}
    (built : build config openLog = .ok server)
    (ran : (machine snapshotRecord).run server events = some (next, outputs)) :
    next.observability.droppedLogs =
      Fin.ofNat u64Limit (next.observability.refusedLogs.count .context) := by
  obtain ⟨valid, log, first⟩ := observability_of_build built
  obtain ⟨refused, logs⟩ := logs_of_run (started_of_build built).log.alive ran
  rw [logs.droppedLogs, logs.refusedLogs, first]
  exact zero_add _

/-- The log of a run is the record of the start and then what was sent, in order
and without what the full channel refused. -/
theorem order_of_run {config : BalancerConfig} {openLog : String → MzaniResult Unit}
    (built : build config openLog = .ok server)
    (ran : (machine snapshotRecord).run server events = some (next, outputs)) :
    ∃ taken, taken.Sublist (outputs.flatMap Output.sends) ∧
      taken.length + next.observability.refusedLogs.countP (· ≠ .warning) =
        (outputs.flatMap Output.sends).length ∧
      outputs.filterMap Output.writes ++ next.observability.log.queue =
        serverStart config.listen config.backends.val config.pool.workers.val :: taken := by
  have started := started_of_build built
  obtain ⟨valid, log, first⟩ := observability_of_build built
  obtain ⟨refused, logs⟩ := logs_of_run started.log.alive ran
  obtain ⟨taken, sublist, count, order⟩ := logs.log.order
  refine ⟨taken, sublist, ?_, ?_⟩
  · rw [logs.refusedLogs, first]
    exact count
  · rw [order, started.log.queue]
    rfl

/-- A log channel for one record. -/
def shortLog : BalancerConfig :=
  { backends := ⟨[.v4 localhost 9001], by decide⟩
    pool := { workers := 1, logChannelCapacity := 1 } }

/-- The first error finds the record of the start queued, the second one does
not. -/
def twoErrors : List (Event Nat Source Source) :=
  [.acceptError ⟨.other, "first"⟩, .write, .acceptError ⟨.other, "second"⟩, .write]

end Server

end Mzani
