import Mzani.Core.PoolWiring

/-!
# The balancer at run time

The pool, the log writer, the metrics aggregator, the health monitor and the
thread that owns the balancer, with every sender of the log channel and of the
metrics channel, as one state machine.  Records are arbitrary: a thread that
may log can send any record at any time, which covers `emit_log` with its
warning about dropped records.
-/

namespace Mzani

open Support

/-- The threads that shutdown joins. -/
inductive Thread where
  | worker (worker : Nat)
  | metrics
  | log
  | health
  deriving DecidableEq

/-- How far `metrics_aggregator_loop` is: in `recv`, before the record of a
request is sent, before a snapshot is sent, and after the loop. -/
inductive MetricsStep (Stats : Type) where
  | receiving
  | aggregated (stats : Stats)
  | reporting
  | exited
  deriving DecidableEq

/-- How far `log_writer_loop` is. -/
inductive LogStep (Record : Type) where
  | receiving
  | writing (record : Record)
  | exited
  deriving DecidableEq

/-- How far `health_loop` is: before `stop` is read for another round, before
it is read for the next address, in a probe, in `sleep_interruptible`, and
after the loop. -/
inductive HealthStep where
  | looping
  | scanning (addrs : List SocketAddr)
  | probing (addrs : List SocketAddr)
  | sleeping (remaining : Duration)
  | exited
  deriving DecidableEq

/-- Which call runs the shutdown sequence: `Balancer::shutdown`, the drop of a
balancer, or the drop at the end of `Balancer::shutdown`. -/
inductive ShutdownKind where
  | shutdown
  | drop
  | dropAgain
  deriving DecidableEq

/-- The statements of `Balancer::shutdown`, of `Drop for Balancer` and of
`shutdown_threads`, before they run. -/
inductive Point where
  | signal
  | stopHealth
  | joinHealth
  | stopAccepting
  | clearing
  | grace
  | stopThreads
  | clearingThreads
  | takeHandles
  | joinWorkers
  | detach
  | dropMetricsTx
  | joinMetrics
  | shutdownLog
  | dropLogTx
  | joinLog
  | returned
  deriving DecidableEq

/-- The sequence under way; `workers`, `metrics` and `log` are the handles that
`shutdown_threads` has taken and not yet joined. -/
structure ShutdownRun where
  kind : ShutdownKind
  point : Point
  workers : List Nat
  metrics : Bool
  log : Bool
  deriving DecidableEq

/-- `Balancer` with its threads.  `poolLogTx` and `poolMetricsTx` tell whether
`Observability` has its senders, `contextLogTx` and `contextMetricsTx` whether
`Context` has them; `contextRefs` is the strong count of the context.
`contextHandles` and `logHandles` count the clones that were handed out and are
still held.  `run` is the shutdown sequence, if it has begun, and `joined` the
threads joined so far. -/
structure Balancer (Stream Record Stats : Type) where
  config : BalancerConfig
  pool : ThreadPool Stream
  log : Channel Record
  metrics : Channel Stats
  poolLogTx : Bool
  poolMetricsTx : Bool
  contextLogTx : Bool
  contextMetricsTx : Bool
  contextRefs : Nat
  contextHandles : Nat
  logHandles : Nat
  metricsThread : MetricsStep Stats
  logThread : LogStep Record
  healthThread : HealthStep
  healthStop : Bool
  healthHandle : Bool
  handles : List Thread
  run : Option ShutdownRun
  joined : List Thread

/-- Who uses the context: a worker inside `handle_connection`, somebody who
borrows the balancer (the accept loop), or the holder of a clone. -/
inductive ContextUser where
  | worker (worker : Nat)
  | borrower
  | holder
  deriving DecidableEq

inductive Action (Stream Record Stats : Type) where
  | submit (stream : Stream)
  | advance (call : Nat)
  | work (worker : Nat)
  | emitLog (user : ContextUser) (record : Record)
  | recordMetrics (user : ContextUser) (stats : Stats)
  | cloneContext
  | dropContext
  | cloneLogSender
  | dropLogSender
  | sendLog (record : Record)
  | aggregate (record : Record) (due : Bool)
  | write
  | probe (record : Option Record)
  | beginShutdown (kind : ShutdownKind)
  | own (snapshot : Record)

namespace Balancer

variable {Stream Record Stats : Type}

/-- `Balancer::build`; `startup` is the record that `Observability::start`
sends.  The threads have been spawned and have not taken a step. -/
def build (config : BalancerConfig) (logger : MzaniResult Unit) (startup : Record) :
    MzaniResult (Balancer Stream Record Stats) :=
  match valid : config.validate with
  | .error error => .error error
  | .ok () =>
      have checked := (PoolConfig.validate_eq_ok_iff config.pool).mp
        ((BalancerConfig.validate_eq_ok_iff config).mp valid).2.2.2
      match ThreadPool.new config.pool false logger with
      | .error error => .error error
      | .ok pool =>
          let log := Channel.sync config.pool.logChannelCapacity.val
            (Nat.pos_of_ne_zero fun zero => checked.2.2.1 (Fin.ext zero))
          let metrics := Channel.sync config.pool.metricsChannelCapacity.val
            (Nat.pos_of_ne_zero fun zero => checked.2.2.2 (Fin.ext zero))
          .ok
            { config := config
              pool := pool
              -- clones for the context, the aggregator and the health monitor
              log := (log.cloneSender.cloneSender.trySendOrDrop startup).cloneSender
              metrics := metrics.cloneSender
              poolLogTx := true
              poolMetricsTx := true
              contextLogTx := true
              contextMetricsTx := true
              contextRefs := 1 + config.pool.workers.val
              contextHandles := 0
              logHandles := 0
              metricsThread := .receiving
              logThread := .receiving
              healthThread := .looping
              healthStop := false
              healthHandle := true
              handles := .log :: .metrics ::
                (List.range config.pool.workers.val).map .worker
              run := none
              joined := [] }

/-- Whether the user may use the context now. -/
def mayUse (balancer : Balancer Stream Record Stats) : ContextUser → Bool
  | .worker worker =>
      match balancer.pool.lanes[worker]? with
      | some { worker := .handling _, .. } => true
      | _ => false
  | .borrower => balancer.run.isNone
  | .holder => 0 < balancer.contextHandles

/-- A thread sends a record and drops it if the channel is full. -/
def trySendLog (balancer : Balancer Stream Record Stats) (record : Record) :
    Balancer Stream Record Stats :=
  { balancer with log := balancer.log.trySendOrDrop record }

/-- The thread that sends has a sender of the log channel and drops it. -/
def dropLogTx (balancer : Balancer Stream Record Stats) : Balancer Stream Record Stats :=
  { balancer with log := balancer.log.dropSender }

/-- `Context::emit_log` -/
def emitLog (balancer : Balancer Stream Record Stats) (record : Record) :
    Balancer Stream Record Stats :=
  if balancer.contextLogTx = true then balancer.trySendLog record else balancer

/-- `Context::record_metrics` -/
def recordMetrics (balancer : Balancer Stream Record Stats) (stats : Stats) :
    Balancer Stream Record Stats :=
  if balancer.contextMetricsTx = true then
    { balancer with metrics := balancer.metrics.trySendOrDrop stats }
  else balancer

/-- A step of a worker; when it leaves its loop its reference to the context
goes. -/
def work (balancer : Balancer Stream Record Stats) (worker : Nat) :
    Option (Balancer Stream Record Stats) :=
  match balancer.pool.work worker with
  | none => none
  | some pool =>
      match pool.lanes[worker]? with
      | some { worker := .exited, .. } =>
          some { balancer with pool, contextRefs := balancer.contextRefs - 1 }
      | _ => some { balancer with pool }

/-- A step of `metrics_aggregator_loop`; `record` is what it sends, and `due`
whether a snapshot is due after a request. -/
def aggregate (balancer : Balancer Stream Record Stats) (record : Record) (due : Bool) :
    Option (Balancer Stream Record Stats) :=
  match balancer.metricsThread with
  | .receiving =>
      match balancer.metrics.recv with
      | .item stats metrics =>
          some { balancer with metrics, metricsThread := .aggregated stats }
      | .disconnected =>
          some
            { balancer.dropLogTx with
              metrics := balancer.metrics.dropReceiver
              metricsThread := .exited }
      | .blocked => none
  | .aggregated _ =>
      some
        { balancer.trySendLog record with
          metricsThread := if due = true then .reporting else .receiving }
  | .reporting => some { balancer.trySendLog record with metricsThread := .receiving }
  | .exited => none

/-- A step of `log_writer_loop`. -/
def write (balancer : Balancer Stream Record Stats) :
    Option (Balancer Stream Record Stats) :=
  match balancer.logThread with
  | .receiving =>
      match balancer.log.recv with
      | .item record log => some { balancer with log, logThread := .writing record }
      | .disconnected =>
          some { balancer with log := balancer.log.dropReceiver, logThread := .exited }
      | .blocked => none
  | .writing _ => some { balancer with logThread := .receiving }
  | .exited => none

/-- `SLICE` of `sleep_interruptible` -/
def slice : Duration := .fromMillis 50

/-- A step of `health_loop`; `record` is what it sends after a probe, if the
health of the backend has changed. -/
def probe (balancer : Balancer Stream Record Stats) (record : Option Record) :
    Option (Balancer Stream Record Stats) :=
  match balancer.healthThread with
  | .looping =>
      if balancer.healthStop = true then
        some { balancer.dropLogTx with healthThread := .exited }
      else some { balancer with healthThread := .scanning balancer.config.backends.val }
  | .scanning [] =>
      some { balancer with healthThread := .sleeping balancer.config.health.interval }
  | .scanning (_ :: addrs) =>
      if balancer.healthStop = true then
        some { balancer.dropLogTx with healthThread := .exited }
      else some { balancer with healthThread := .probing addrs }
  | .probing addrs =>
      match record with
      | none => some { balancer with healthThread := .scanning addrs }
      | some record => some { balancer.trySendLog record with healthThread := .scanning addrs }
  | .sleeping remaining =>
      if remaining = 0 ∨ balancer.healthStop = true then
        some { balancer with healthThread := .looping }
      else
        some { balancer with healthThread := .sleeping (remaining - min remaining slice) }
  | .exited => none

def hasExited (balancer : Balancer Stream Record Stats) : Thread → Bool
  | .worker worker =>
      match balancer.pool.lanes[worker]? with
      | some { worker := .exited, .. } => true
      | _ => false
  | .metrics => (balancer.metricsThread matches .exited)
  | .log => (balancer.logThread matches .exited)
  | .health => (balancer.healthThread matches .exited)

/-- `join` returns when the thread has exited. -/
def join (balancer : Balancer Stream Record Stats) (thread : Thread) (run : ShutdownRun) :
    Option (Balancer Stream Record Stats) :=
  if balancer.hasExited thread = true then
    some { balancer with run := some run, joined := balancer.joined ++ [thread] }
  else none

/-- `if let Some(ctx) = Arc::get_mut(..) { ctx.detach_observability() }` -/
def detach (balancer : Balancer Stream Record Stats) : Balancer Stream Record Stats :=
  if balancer.contextRefs = 1 then
    { balancer with
      log := balancer.log.dropSenderIf balancer.contextLogTx
      metrics := balancer.metrics.dropSenderIf balancer.contextMetricsTx
      contextLogTx := false
      contextMetricsTx := false }
  else balancer

/-- A step of `stop_accepting` after the flag is set: the next sender goes, or
the call returns to `next`. -/
def clearSenders (balancer : Balancer Stream Record Stats) (run : ShutdownRun)
    (next : Point) : Option (Balancer Stream Record Stats) :=
  match balancer.pool.connectionTxs with
  | [] =>
      balancer.pool.endStop.map fun pool =>
        { balancer with pool, run := some { run with point := next } }
  | _ :: _ =>
      balancer.pool.dropSender.map fun pool => { balancer with pool }

/-- A step of the thread that runs the shutdown sequence; `snapshot` is the
record that `shutdown_log` sends.  In `Balancer::shutdown` the senders are
cleared, and the grace period passes, before `shutdown_threads`. -/
def shutdownStep (balancer : Balancer Stream Record Stats) (run : ShutdownRun)
    (snapshot : Record) : Option (Balancer Stream Record Stats) :=
  let goto (next : Point) : ShutdownRun := { run with point := next }
  match run.point with
  | .signal =>
      some
        { balancer with
          pool := { balancer.pool with shuttingDown := true }
          run := some (goto .stopHealth) }
  | .stopHealth =>
      some { balancer with healthStop := true, run := some (goto .joinHealth) }
  | .joinHealth =>
      let next := goto (if run.kind = .shutdown then .stopAccepting else .stopThreads)
      if balancer.healthHandle = true then
        (balancer.join .health next).map fun joined =>
          { joined with healthHandle := false }
      else some { balancer with run := some next }
  | .stopAccepting =>
      balancer.pool.beginStop.map fun pool =>
        { balancer with pool, run := some (goto .clearing) }
  | .clearing => balancer.clearSenders run .grace
  | .grace => some { balancer with run := some (goto .stopThreads) }
  | .stopThreads =>
      balancer.pool.beginStop.map fun pool =>
        { balancer with pool, run := some (goto .clearingThreads) }
  | .clearingThreads => balancer.clearSenders run .takeHandles
  | .takeHandles =>
      some
        { balancer with
          handles := []
          run := some
            { run with
              point := .joinWorkers
              workers := balancer.handles.filterMap fun
                | .worker worker => some worker
                | _ => none
              metrics := decide (.metrics ∈ balancer.handles)
              log := decide (.log ∈ balancer.handles) } }
  | .joinWorkers =>
      match run.workers with
      | [] => some { balancer with run := some (goto .detach) }
      | worker :: rest => balancer.join (.worker worker) { run with workers := rest }
  | .detach => some { balancer.detach with run := some (goto .dropMetricsTx) }
  | .dropMetricsTx =>
      some
        { balancer with
          metrics := balancer.metrics.dropSenderIf balancer.poolMetricsTx
          poolMetricsTx := false
          run := some (goto .joinMetrics) }
  | .joinMetrics =>
      if run.metrics = true then
        balancer.join .metrics { run with point := .shutdownLog, metrics := false }
      else some { balancer with run := some (goto .shutdownLog) }
  | .shutdownLog =>
      let sent := if balancer.poolLogTx = true then balancer.trySendLog snapshot
        else balancer
      some { sent with run := some (goto .dropLogTx) }
  | .dropLogTx =>
      some
        { balancer with
          log := balancer.log.dropSenderIf balancer.poolLogTx
          poolLogTx := false
          run := some (goto .joinLog) }
  | .joinLog =>
      if run.log = true then
        balancer.join .log { run with point := .returned, log := false }
      else some { balancer with run := some (goto .returned) }
  | .returned =>
      -- the balancer is dropped when `Balancer::shutdown` returns
      if run.kind = .shutdown then
        some { balancer with run := some { run with kind := .dropAgain, point := .signal } }
      else none

/-- `Balancer::shutdown` and `drop` need the balancer for themselves: nobody
else borrows it, so no call of `submit` is on. -/
def beginShutdown (balancer : Balancer Stream Record Stats) (kind : ShutdownKind) :
    Option (Balancer Stream Record Stats) :=
  if balancer.run = none ∧ balancer.pool.calls.length = 0 ∧ kind ≠ .dropAgain then
    some
      { balancer with
        run := some { kind, point := .signal, workers := [], metrics := false, log := false } }
  else none

def step [DecidableEq Stream] (balancer : Balancer Stream Record Stats) :
    Action Stream Record Stats → Option (Balancer Stream Record Stats)
  | .submit stream =>
      if balancer.run.isSome then none
      else (balancer.pool.enterSubmit stream).map fun pool => { balancer with pool }
  | .advance call => (balancer.pool.advance call).map fun pool => { balancer with pool }
  | .work worker => balancer.work worker
  | .emitLog user record =>
      if balancer.mayUse user = true then some (balancer.emitLog record) else none
  | .recordMetrics user stats =>
      if balancer.mayUse user = true then some (balancer.recordMetrics stats) else none
  | .cloneContext =>
      if balancer.run = none ∨ 0 < balancer.contextHandles then
        some
          { balancer with
            contextRefs := balancer.contextRefs + 1
            contextHandles := balancer.contextHandles + 1 }
      else none
  | .dropContext =>
      if 0 < balancer.contextHandles then
        some
          { balancer with
            contextRefs := balancer.contextRefs - 1
            contextHandles := balancer.contextHandles - 1 }
      else none
  | .cloneLogSender =>
      if (balancer.run = none ∧ balancer.poolLogTx = true) ∨ 0 < balancer.logHandles then
        some
          { balancer with
            log := balancer.log.cloneSender
            logHandles := balancer.logHandles + 1 }
      else none
  | .dropLogSender =>
      if 0 < balancer.logHandles then
        some { balancer.dropLogTx with logHandles := balancer.logHandles - 1 }
      else none
  | .sendLog record =>
      if 0 < balancer.logHandles then some (balancer.trySendLog record) else none
  | .aggregate record due => balancer.aggregate record due
  | .write => balancer.write
  | .probe record => balancer.probe record
  | .beginShutdown kind => balancer.beginShutdown kind
  | .own snapshot =>
      match balancer.run with
      | none => none
      | some run => balancer.shutdownStep run snapshot

def machine [DecidableEq Stream] :
    Machine (Balancer Stream Record Stats) (Action Stream Record Stats) where
  step := step

end Balancer

end Mzani
