import Mzani.State.TerminalEvents
import Mzani.Support.Channel
import Mzani.Support.Machine

/-!
# Observability

The log channel, the metrics channel and the threads at both ends of them, as
one state machine: threads that run `handle_connection` or log an event of the
accept loop, the metrics aggregator, the log writer, and those that send
records past the context.  The threads live as long as they are joined, and
shutdown is not part of it.
-/

namespace Mzani

open Support

/-- How far a call of `emit_log` is: before the record is sent, before a drop
is counted, and before the warning about drops is sent. -/
inductive Emission where
  | sending (record : LogRecord)
  | counting
  | warning (prev : U64)
  deriving DecidableEq

/-- A thread inside a call: what the call does, how many of its effects have
been begun, and the call of `emit_log` that is on. -/
structure Running where
  handled : Handled
  position : Nat
  emission : Option Emission
  deriving DecidableEq

/-- How far `metrics_aggregator_loop` is: in `recv`, before the statistics are
added up, before the record of the request is sent, before a snapshot is sent,
and after the loop. -/
inductive Aggregating where
  | receiving
  | received (stats : RequestStats)
  | reporting (stats : RequestStats) (due : Bool)
  | snapshotting
  | exited
  deriving DecidableEq

/-- Who sends a record: `emit_log`, its warning about drops, the aggregator, or
the holder of a sender of its own (`ChannelLogSink`, `shutdown_log`). -/
inductive Emitter where
  | context
  | warning
  | aggregator
  | sink
  deriving DecidableEq

/-- `Observability` with its threads.  `returned` are the calls that have
returned; `refusedLogs` and `refusedStats` tell what the channels refused
because they were full. -/
structure Observability where
  log : Channel LogRecord
  stats : Channel RequestStats
  metrics : Metrics
  droppedLogs : U64
  threads : List (Option Running)
  aggregator : Aggregating
  requestCount : U64
  returned : List Handled
  refusedLogs : List Emitter
  refusedStats : List RequestStats

/-- A thread takes up a call of `handle_connection`, logs an event of the accept
loop, or rejects a connection; a thread goes on with its call; the aggregator
takes a step, which finds the snapshot interval over or not; the log writer
takes a record; a sender of its own sends a record. -/
inductive Activity (σ τ : Type) where
  | call (thread : Nat) (client : ClientSocket σ) (around : Surroundings τ)
      (req : RequestContext)
  | acceptEvent (thread : Nat) (record : LogRecord)
  | rejectPoolFull (thread : Nat)
  | work (thread : Nat)
  | aggregate (elapsed : Bool)
  | write
  | sink (record : LogRecord)

def metricsSnapshotEveryN : Nat := 100

/-- The record that `Observability::start` sends. -/
def serverStart (listen : SocketAddr) (backends : List SocketAddr) (workers : Nat) :
    LogRecord :=
  (LogRecord.new .info "server_start" .log)
    |>.field "listen" (formatAddr listen)
    |>.field "backends" ((backends.map formatAddr).intersperse [','] |>.flatten)
    |>.field "worker_count" (decimal workers)

def logDropped (count : U64) : LogRecord :=
  (LogRecord.new .warn "log_dropped" .log).field "dropped_count" (decimal count.val)

def poolSaturated : LogRecord :=
  .new .warn "pool_saturated" .accept

theorem channels_positive {config : PoolConfig} (valid : config.validate = .ok ()) :
    0 < config.logChannelCapacity.val ∧ 0 < config.metricsChannelCapacity.val := by
  have checked := (PoolConfig.validate_eq_ok_iff config).mp valid
  constructor
  · apply Nat.pos_of_ne_zero
    intro zero
    exact checked.2.2.1 (Fin.ext zero)
  · apply Nat.pos_of_ne_zero
    intro zero
    exact checked.2.2.2 (Fin.ext zero)

namespace Observability

/-- A record is sent past the count of drops. -/
def send (state : Observability) (emitter : Emitter) (record : LogRecord) :
    Observability :=
  match state.log.trySend record with
  | .sent log => { state with log }
  | .full => { state with refusedLogs := state.refusedLogs ++ [emitter] }
  | .disconnected => state

/-- The channels and the threads before the first record; besides the first
sender of records there are those of the context and of the aggregator. -/
def spawn (config : PoolConfig) (valid : config.validate = .ok ()) (threads : Nat) :
    Observability :=
  let log : Channel LogRecord :=
    .sync config.logChannelCapacity.val (channels_positive valid).1
  let stats : Channel RequestStats :=
    .sync config.metricsChannelCapacity.val (channels_positive valid).2
  { log := log.cloneSender.cloneSender
    stats := stats.cloneSender
    metrics := .default
    droppedLogs := 0
    threads := List.replicate threads none
    aggregator := .receiving
    requestCount := 0
    returned := []
    refusedLogs := []
    refusedStats := [] }

/-- `Observability::start`, with some threads that use the context. -/
def start (config : PoolConfig) (valid : config.validate = .ok ()) (listen : SocketAddr)
    (backends : List SocketAddr) (threads : Nat) : Observability :=
  (spawn config valid threads).send .sink
    (serverStart listen backends config.workers.val)

/-- A step of `emit_log`, with what is left of the call. -/
def emit (state : Observability) : Emission → Observability × Option Emission
  | .sending record =>
      match state.log.trySend record with
      | .sent log => ({ state with log }, none)
      | .full =>
          ({ state with refusedLogs := state.refusedLogs ++ [.context] }, some .counting)
      | .disconnected => (state, some .counting)
  | .counting =>
      let prev := state.droppedLogs
      ({ state with droppedLogs := prev + 1 },
        if 0 < prev ∧ prev.val % 100 = 0 then some (.warning prev) else none)
  | .warning prev => (state.send .warning (logDropped (prev + 1)), none)

/-- `record_metrics` -/
def recordMetrics (state : Observability) (stats : RequestStats) : Observability :=
  match state.stats.trySend stats with
  | .sent channel => { state with stats := channel }
  | .full => { state with refusedStats := state.refusedStats ++ [stats] }
  | .disconnected => state

def setThread (state : Observability) (thread : Nat) (running : Option Running) :
    Observability :=
  { state with threads := state.threads.set thread running }

/-- A thread that has nothing to do takes up a call. -/
def enter (state : Observability) (thread : Nat) (handled : Handled) :
    Option Observability :=
  match state.threads[thread]? with
  | some none =>
      some (state.setThread thread (some { handled, position := 0, emission := none }))
  | _ => none

/-- The next effect of a call, or its return. -/
def advance (state : Observability) (thread : Nat) (running : Running) : Observability :=
  let next : Running := { running with position := running.position + 1 }
  match running.handled.effects[running.position]? with
  | none =>
      { state.setThread thread none with returned := state.returned ++ [running.handled] }
  | some (.emitLog record) =>
      state.setThread thread (some { next with emission := some (.sending record) })
  | some (.recordMetrics stats) =>
      (state.recordMetrics stats).setThread thread (some next)
  | some _ => state.setThread thread (some next)

/-- A thread goes on with its call of `emit_log`, or with its call. -/
def work (state : Observability) (thread : Nat) : Option Observability :=
  match state.threads[thread]? with
  | some (some running) =>
      match running.emission with
      | some emission =>
          let (next, emission) := state.emit emission
          some (next.setThread thread (some { running with emission }))
      | none => some (state.advance thread running)
  | _ => none

/-- `log_writer_loop` receives a record; the file is not part of the model. -/
def write (state : Observability) : Option Observability :=
  match state.log.recv with
  | .item _ log => some { state with log }
  | .disconnected => some { state with log := state.log.dropReceiver }
  | .blocked => none

section

variable (snapshotRecord : Metrics → LogRecord)

/-- A step of `metrics_aggregator_loop`. -/
def aggregate (state : Observability) (elapsed : Bool) : Option Observability :=
  match state.aggregator with
  | .receiving =>
      match state.stats.recv with
      | .item stats channel =>
          some
            { state with
              stats := channel
              requestCount := state.requestCount + 1
              aggregator := .received stats }
      | .disconnected =>
          some { state with stats := state.stats.dropReceiver, aggregator := .exited }
      | .blocked => none
  | .received stats =>
      let due := decide (state.requestCount.val % metricsSnapshotEveryN = 0) || elapsed
      some
        { state with
          metrics := state.metrics.recordRequest stats
          aggregator := .reporting stats due }
  | .reporting stats due =>
      some
        { state.send .aggregator (stats.toMetricsRecord ⟨stats.reqId, stats.workerId⟩) with
          aggregator := if due = true then .snapshotting else .receiving }
  | .snapshotting =>
      some
        { state.send .aggregator (snapshotRecord state.metrics) with
          aggregator := .receiving }
  | .exited => none

variable {σ τ : Type} [Read σ] [Read τ] (context : WorkerContext)

def step (state : Observability) : Activity σ τ → Option Observability
  | .call thread client around req =>
      state.enter thread (context.handleConnection client around req)
  | .acceptEvent thread record =>
      state.enter thread { effects := [.emitLog record], result := .ok () }
  | .rejectPoolFull thread =>
      { state with metrics := state.metrics.recordPoolRejected }.enter thread
        { effects := [.emitLog poolSaturated], result := .ok () }
  | .work thread => state.work thread
  | .aggregate elapsed => state.aggregate snapshotRecord elapsed
  | .write => state.write
  | .sink record => some (state.send .sink record)

/-- The machine; `snapshot_record` formats floating-point numbers and is a
parameter. -/
def machine : Machine Observability (Activity σ τ) where
  step := step snapshotRecord context

end

end Observability

end Mzani
