import Mzani.Balancer.ServerLoad
import Mzani.Core.HeaderScan

/-!
# What a server shows of requests that fail

Two servers that no sequence of events tells apart make as many attempts for a
request, which shows when no backend can be reached, and have as much room for
statistics: failed requests fill the metrics channel until the aggregator goes
on.
-/

namespace Mzani

open Support

/-! ## Calls when no backend can be reached -/

namespace Task

/-- The call asks for so many backends and records so many statistics, if it is
given a backend each time. -/
inductive Amounts : (asked recorded : Nat) → Task → Prop where
  | done (result : MzaniResult Unit) : Amounts 0 0 (.done result)
  | record {asked recorded : Nat} {rest : Task} (stats : RequestStats) :
      Amounts asked recorded rest →
      Amounts asked (recorded + 1) (.perform (.recordMetrics stats) rest)
  | perform {asked recorded : Nat} {rest : Task} {effect : Effect} :
      (∀ stats, effect ≠ .recordMetrics stats) → Amounts asked recorded rest →
      Amounts asked recorded (.perform effect rest)
  | select {asked recorded : Nat} {rest : MzaniResult SocketAddr → Task} :
      (∀ target, Amounts asked recorded (rest (.ok target))) →
      Amounts (asked + 1) recorded (.select rest)

variable {asked recorded : Nat} {rest : Task}

theorem amounts_log (record : LogRecord) (amounts : Amounts asked recorded rest) :
    Amounts asked recorded (.perform (.emitLog record) rest) :=
  .perform nofun amounts

end Task

/-- A request on one line. -/
def bareGet : Bytes := toUtf8 "GET / HTTP/1.1\r\n\r\n".toList

/-- A client that sends this request at once, and no backend that takes
connections. -/
def unreachable : Meets Source Source where
  client :=
    { setReadTimeout := fun _ => .ok ()
      peerAddr := .ok (.v4 localhost 50000)
      stream := [.ok ⟨bareGet, by decide⟩]
      breaks := none
      flush := .ok ()
      shutdown := .ok () }
  connect := fun _ _ => .error ⟨.other, "connection refused"⟩
  clock := fun _ => 0

/-- The request is read whatever the limits are: the first read has it all. -/
theorem fromStream_bareGet (limits : Limits) :
    (Request.fromStream limits unreachable.client.stream).1 =
      .ok ⟨.get, "/".toList, [], [], bareGet⟩ := by
  have read : Read.read 4096 unreachable.client.stream = (.ok bareGet, []) := by
    rfl
  have found : findSubslice ([] ++ bareGet) headerEnd = some 14 := by
    decide +kernel
  have block : readHeaderBlock limits.maxHeaderBytes unreachable.client.stream =
      (.ok (bareGet, []), []) := by
    rw [readHeaderBlock, readHeaderLoop_step, read]
    dsimp only
    rw [found]
    rfl
  have parsed : parseHead bareGet = .ok (.get, "/".toList, []) := by
    decide +kernel
  have noLength : contentLength [] = .ok 0 := by
    rfl
  unfold Request.fromStream
  rw [Reading.bind_of_ok block]
  dsimp only
  rw [parsed, Reading.ofExcept_ok_bind]
  dsimp only
  rw [noLength, Reading.ofExcept_ok_bind]
  simp only [Nat.not_lt_zero, if_false, List.length_nil, Nat.sub_self]
  rfl

theorem amounts_retryTask (context : Context) (bytes : Bytes)
    (conclude : MzaniResult Bytes → List Attempt → Handled)
    (concluded : ∀ error made, Task.Amounts 0 1 (.ofHandled (conclude (.error error) made)))
    {attempts left attempt : Nat} (rounds : attempts = attempt + left + 1) (target : SocketAddr)
    (lastError : Option MzaniError) (made : List Attempt) :
    Task.Amounts left 1 (context.retryTask unreachable.connect bytes attempts conclude (left + 1)
      attempt target lastError made) := by
  induction left generalizing attempt target lastError made with
  | zero =>
      rw [Context.retryTask]
      simp only [unreachable, proxyToBackend, if_pos (show attempts ≤ attempt + 1 by omega)]
      exact concluded _ _
  | succ left ih =>
      rw [Context.retryTask]
      simp only [unreachable, proxyToBackend, if_neg (show ¬attempts ≤ attempt + 1 by omega)]
      apply Task.Amounts.select
      intro selected
      exact ih (by omega) _ _ _

/-- A call asks for a backend once for each attempt. -/
theorem amounts_handleTask (context : WorkerContext) (req : RequestContext) :
    Task.Amounts (saturatingSucc context.maxBackendRetries).val 1
      (context.handleTask req unreachable) := by
  have one : 1 ≤ (saturatingSucc context.maxBackendRetries).val :=
    one_le_saturatingSucc context.maxBackendRetries
  obtain ⟨retries, attempts⟩ : ∃ retries,
      (saturatingSucc context.maxBackendRetries).val = retries + 1 :=
    ⟨_, (Nat.sub_add_cancel one).symm⟩
  have concluded : ∀ (target : SocketAddr) (requestLen : Nat) (error : MzaniError)
      (made : List Attempt),
      Task.Amounts 0 1 (.ofHandled (context.conclude req unreachable.client unreachable.clock
        target requestLen (.error error) made)) := by
    intro target requestLen error made
    have proxied : ∀ stats, Effect.proxy made ≠ .recordMetrics stats := nofun
    apply Task.Amounts.perform proxied
    apply Task.amounts_log
    apply Task.Amounts.record
    exact Task.Amounts.done _
  have forwarded : ∀ target request,
      Task.Amounts retries 1 (context.forwardTask req unreachable target request) := by
    intro target request
    apply Task.amounts_log
    apply Task.amounts_log
    rw [attempts]
    exact amounts_retryTask context.toContext request.toBytes _ (concluded target _)
      (by omega) target none []
  have served : ∀ target, Task.Amounts retries 1 (context.serveTask req unreachable target) := by
    intro target
    unfold WorkerContext.serveTask
    rw [fromStream_bareGet]
    exact Task.amounts_log _ (forwarded target _)
  rw [attempts]
  apply Task.amounts_log
  apply Task.Amounts.select
  exact served

/-! ## A worker takes its connection -/

namespace ThreadPool

variable {Stream : Type} {pool : ThreadPool Stream} {worker : Nat} {lane : Lane Stream}
  {stream : Stream}

theorem work_receiving {queue : Channel Stream} (running : pool.shuttingDown = false)
    (found : pool.lanes[worker]? = some lane) (waiting : lane.worker = .receiving)
    (answer : lane.queue.recv = .item stream queue) :
    pool.work worker = some (pool.setLane worker { queue, worker := .received stream }) := by
  simp [work, found, waiting, answer, running, setLane]

theorem work_received (running : pool.shuttingDown = false)
    (found : pool.lanes[worker]? = some lane) (holds : lane.worker = .received stream) :
    pool.work worker = some (pool.setLane worker { lane with worker := .numbering stream }) := by
  simp [work, found, holds, running]

theorem work_numbering (found : pool.lanes[worker]? = some lane)
    (holds : lane.worker = .numbering stream) :
    pool.work worker =
      some
        { pool.setLane worker { lane with worker := .handling ⟨pool.nextReqId, worker⟩ } with
          nextReqId := pool.nextReqId + 1
          handled := pool.handled ++ [(stream, ⟨pool.nextReqId, worker⟩)] } := by
  simp [work, found, holds]

theorem work_handling {req : RequestContext} (found : pool.lanes[worker]? = some lane)
    (holds : lane.worker = .handling req) :
    pool.work worker = some (pool.setLane worker { lane with worker := .receiving }) := by
  simp [work, found, holds]

/-- A connection has been handed to the worker that is next, which leaves this
queue behind and begins its call. -/
def handed (pool : ThreadPool Stream) (stream : Stream) (queue : Channel Stream) :
    ThreadPool Stream :=
  let req : RequestContext := { reqId := pool.nextReqId, workerId := pool.nextWorker }
  { pool.setLane pool.nextWorker { queue, worker := .handling req } with
    dispatchIndex := pool.dispatchIndex + 1
    submitted := pool.submitted ++ [stream]
    nextReqId := pool.nextReqId + 1
    handled := pool.handled ++ [(stream, req)] }

theorem Accepting.handed (accepting : pool.Accepting) (stream : Stream)
    (queue : Channel Stream) : (pool.handed stream queue).Accepting := by
  have kept := accepting.setLane pool.nextWorker
    { queue, worker := .handling ⟨pool.nextReqId, pool.nextWorker⟩ }
  exact ⟨kept.calls, kept.stopping, kept.shuttingDown, kept.senders, kept.staffed⟩

end ThreadPool

namespace Observability

/-- The steps that the aggregator has left before its next `recv`, with a
snapshot after each request. -/
def leftover : Aggregating → Nat
  | .receiving => 0
  | .received _ => 3
  | .reporting _ due => if due = true then 2 else 1
  | .snapshotting => 1
  | .exited => 0

/-- The steps that the aggregator has left before it waits. -/
def workload (state : Observability) : Nat :=
  4 * state.stats.queue.length + leftover state.aggregator

variable {state next : Observability} {snapshotRecord : Metrics → LogRecord}

theorem workload_le (state : Observability) :
    state.workload ≤ 4 * state.stats.queue.length + 3 := by
  apply Nat.add_le_add_left
  cases state.aggregator with
  | reporting stats due => cases due <;> exact Nat.le_of_ble_eq_true rfl
  | _ => exact Nat.le_of_ble_eq_true rfl

theorem workload_of_aggregate (senders : state.stats.senders ≠ 0)
    (aggregated : state.aggregate snapshotRecord true = some next) :
    state.workload = next.workload + 1 := by
  have queue : ∀ record, (state.send .aggregator record).stats.queue = state.stats.queue :=
    fun record => congrArg Channel.queue (sends_send state .aggregator record).stats
  unfold workload
  unfold aggregate at aggregated
  split at aggregated
  case h_1 receiving =>
      split at aggregated
      case h_1 stats channel answer =>
          cases aggregated
          rw [receiving, (Channel.received_of_recv answer).queue, List.length_cons]
          simp only [leftover]
          omega
      case h_2 gone => exact absurd (Channel.recv_eq_disconnected_iff.mp gone).2 senders
      case h_3 => cases aggregated
  case h_2 stats received =>
      cases aggregated
      simp [received, leftover]
  case h_3 stats due reporting =>
      cases aggregated
      rw [reporting]
      dsimp only
      rw [queue]
      cases due <;> rfl
  case h_4 snapshotting =>
      cases aggregated
      rw [snapshotting]
      dsimp only
      rw [queue]
      rfl
  case h_5 => cases aggregated

/-- The aggregator has so many steps left at least. -/
structure Laden (count : Nat) (state : Observability) : Prop where
  running : state.aggregator ≠ .exited
  senders : state.stats.senders ≠ 0
  left : count ≤ state.workload

theorem exists_aggregate (snapshotRecord : Metrics → LogRecord)
    (running : state.aggregator ≠ .exited) (left : 0 < state.workload) :
    ∃ next, state.aggregate snapshotRecord true = some next ∧ next.aggregator ≠ .exited := by
  unfold aggregate
  cases step : state.aggregator with
  | receiving =>
      cases pending : state.stats.queue with
      | nil => simp [workload, step, pending, leftover] at left
      | cons stats rest =>
          obtain ⟨channel, answer, _⟩ := Channel.exists_recv pending
          dsimp only
          rw [answer]
          exact ⟨_, rfl, nofun⟩
  | received stats => exact ⟨_, rfl, nofun⟩
  | reporting stats due => exact ⟨_, rfl, by cases due <;> nofun⟩
  | snapshotting => exact ⟨_, rfl, nofun⟩
  | exited => exact absurd step running

theorem Laden.aggregate {count : Nat} (laden : Laden (count + 1) state)
    (snapshotRecord : Metrics → LogRecord) :
    ∃ next, state.aggregate snapshotRecord true = some next ∧ Laden count next := by
  have left := laden.left
  obtain ⟨next, aggregated, running⟩ :=
    exists_aggregate snapshotRecord laden.running (Nat.zero_lt_of_lt left)
  have less := workload_of_aggregate laden.senders aggregated
  refine ⟨next, aggregated, running, ?_, by omega⟩
  rw [(linked_aggregate aggregated).stats.senders]
  exact laden.senders

end Observability

namespace Server

/-! ## Requests one after the other -/

/-- The lane of a worker that waits, or is in a call. -/
structure Settled (task : Option Task) (lane : Lane Nat) : Prop where
  queue : lane.queue.Open lane.queue.capacity []
  waiting : task = none → lane.worker = .receiving
  calling : task ≠ none → ∃ req, lane.worker = .handling req

/-- All backends count as healthy, nobody waits for a worker, and these workers
are in a call; the connections so far have lower numbers. -/
structure Calm (count : Nat) (busy : Nat → Option Task) (server : Server Nat) : Prop where
  accepting : server.pool.Accepting
  fresh : ∀ stream ∈ server.pool.submitted, stream < count
  tasks : server.tasks = busy
  inside : ∀ ⦃worker⦄, busy worker ≠ none → worker < server.pool.lanes.length
  lanes : ∀ ⦃worker lane⦄, server.pool.lanes[worker]? = some lane → Settled (busy worker) lane
  backends : server.backends.entries.val ≠ []
  healthy : ∀ entry ∈ server.backends.entries.val, entry.healthy = true

/-- One worker in a call. -/
def onlyBusy (worker : Nat) (task : Option Task) : Nat → Option Task :=
  Function.update (fun _ => none) worker task

section

variable {σ τ : Type} [Read σ] [Read τ] {snapshotRecord : Metrics → LogRecord}
  {server : Server Nat} {count worker : Nat} {busy : Nat → Option Task}

theorem work_idle {pool next : ThreadPool Nat} {lane : Lane Nat}
    (idle : server.tasks worker = none) (found : pool.lanes[worker]? = some lane)
    (loops : ∀ stream, lane.worker ≠ .numbering stream) (worked : pool.work worker = some next) :
    ∃ output, Server.work { server with pool } worker =
      some ({ server with pool := next }, output) := by
  have notCalling : calls pool worker = false := by
    rw [calls, found]
    obtain ⟨queue, step⟩ := lane
    cases step with
    | numbering stream => exact absurd rfl (loops stream)
    | _ => rfl
  simp [work, idle, notCalling, worked]

theorem call_numbering {pool next : ThreadPool Nat} {lane : Lane Nat} {stream : Nat}
    (meets : Meets σ τ) (found : pool.lanes[worker]? = some lane)
    (holds : lane.worker = .numbering stream) (worked : pool.work worker = some next) :
    Server.call { server with pool } worker meets =
      some
        ({ server with pool := next }.setTask worker
            (some (server.context.handleTask ⟨pool.nextReqId, worker⟩ meets)),
          .quiet) := by
  have calling : calls pool worker = true := by
    rw [calls, found]
    obtain ⟨queue, step⟩ := lane
    cases holds
    rfl
  simp [call, calling, worked]

/-- A connection arrives, and the worker that is next begins its call. -/
def serving (count worker : Nat) (meets : Meets σ τ) : List (Event Nat σ τ) :=
  arrival count ++ [.work worker, .work worker, .call worker meets]

/-- The worker that is next is in its call. -/
theorem Calm.handed (calm : Calm count (fun _ => none) server) {lane : Lane Nat}
    (found : server.pool.lanes[server.pool.nextWorker]? = some lane) {queue : Channel Nat}
    (empty : queue.Open queue.capacity []) (task : Task) :
    Calm (count + 1) (onlyBusy server.pool.nextWorker (some task))
      (Server.setTask { server with pool := server.pool.handed count queue }
        server.pool.nextWorker (some task)) := by
  have inside := (List.getElem?_eq_some_iff.mp found).1
  constructor
  · exact calm.accepting.handed count queue
  · intro stream member
    rcases List.mem_append.mp member with before | added
    · exact Nat.lt_succ_of_lt (calm.fresh stream before)
    · rw [List.mem_singleton.mp added]
      exact Nat.lt_succ_self count
  · exact congrArg (Function.update · server.pool.nextWorker _) calm.tasks
  · intro other inCall
    have length : (server.pool.handed count queue).lanes.length = server.pool.lanes.length :=
      List.length_set
    by_cases same : other = server.pool.nextWorker
    · rw [same]
      exact length ▸ inside
    · exact absurd (Function.update_of_ne same _ _) inCall
  · intro other otherLane atOther
    rcases ThreadPool.getElem?_setLane atOther with ⟨rfl, rfl⟩ | ⟨different, before⟩
    · constructor
      · exact empty
      · intro free
        simp [onlyBusy] at free
      · intro _
        exact ⟨_, rfl⟩
    · rw [onlyBusy, Function.update_of_ne different]
      exact calm.lanes before
  · exact calm.backends
  · exact calm.healthy

variable (snapshotRecord)

theorem Calm.serve (calm : Calm count (fun _ => none) server) (meets : Meets σ τ) :
    ∃ next outputs req, (machine snapshotRecord).run server
        (serving count server.pool.nextWorker meets) = some (next, outputs) ∧
      Calm (count + 1) (onlyBusy server.pool.nextWorker
        (some (server.context.handleTask req meets))) next ∧
      next.observability = server.observability ∧ next.context = server.context := by
  obtain ⟨lane, found⟩ : ∃ lane, server.pool.lanes[server.pool.nextWorker]? = some lane :=
    ⟨_, List.getElem?_eq_getElem calm.accepting.nextWorker_lt⟩
  have settled := calm.lanes found
  have waiting := settled.waiting rfl
  have idle : server.tasks server.pool.nextWorker = none := by rw [calm.tasks]
  have new : count ∉ server.pool.submitted :=
    fun member => Nat.lt_irrefl count (calm.fresh count member)
  obtain ⟨queue, sent, queued⟩ := settled.queue.trySend lane.queue.positive count
  obtain ⟨emptied, received, empty⟩ := queued.recv
  -- the connection is queued, received, let in and numbered
  let arrived := server.pool.queued count { lane with queue }
  let holding := arrived.setLane server.pool.nextWorker
    { queue := emptied, worker := .received count }
  let numbering := holding.setLane server.pool.nextWorker
    { queue := emptied, worker := .numbering count }
  have atArrived : arrived.lanes[server.pool.nextWorker]? = some { lane with queue } :=
    ThreadPool.lanes_setLane found
  have atHolding : holding.lanes[server.pool.nextWorker]? =
      some { queue := emptied, worker := .received count } :=
    ThreadPool.lanes_setLane atArrived
  have atNumbering : numbering.lanes[server.pool.nextWorker]? =
      some { queue := emptied, worker := .numbering count } :=
    ThreadPool.lanes_setLane atHolding
  have running : arrived.shuttingDown = false := calm.accepting.shuttingDown
  have stillRunning : holding.shuttingDown = false := running
  have took : arrived.work server.pool.nextWorker = some holding :=
    ThreadPool.work_receiving running atArrived waiting received
  have letIn : holding.work server.pool.nextWorker = some numbering :=
    ThreadPool.work_received stillRunning atHolding rfl
  have numbered : numbering.work server.pool.nextWorker =
      some (server.pool.handed count emptied) := by
    rw [ThreadPool.work_numbering atNumbering rfl]
    simp [numbering, holding, arrived, ThreadPool.setLane, ThreadPool.queued,
      ThreadPool.handed]
  have loops : ∀ stream, lane.worker ≠ .numbering stream := by
    intro stream same
    rw [waiting] at same
    cases same
  have loopsOn : ∀ stream, WorkerStep.received count ≠ .numbering stream := by
    intro stream same
    cases same
  obtain ⟨_, first⟩ := work_idle idle atArrived loops took
  obtain ⟨_, second⟩ := work_idle idle atHolding loopsOn letIn
  have third : Server.call { server with pool := numbering } server.pool.nextWorker meets =
      some _ := call_numbering meets atNumbering rfl numbered
  have ran := run_arrival σ τ snapshotRecord calm.accepting new found sent
  exact ⟨_, _, _, Transducer.run_append ran
    (Transducer.run_cons first (Transducer.run_cons second (Transducer.run_single third))),
    calm.handed found { empty with capacity := rfl } _, rfl, rfl⟩

/-! ## A call goes on -/

variable {snapshotRecord}

variable {effect : Effect} {rest : Task} {result : MzaniResult Unit}

theorem Calm.found {task : Task} (calm : Calm count (onlyBusy worker (some task)) server) :
    server.tasks worker = some task := by
  rw [calm.tasks]
  exact Function.update_self worker _ _

/-- The settled lanes do not depend on the task. -/
theorem Calm.retask {task next : Task} (calm : Calm count (onlyBusy worker (some task)) server)
    {backends : BackendSet} {observability : Observability}
    (entries : backends.entries = server.backends.entries) :
    Calm count (onlyBusy worker (some next))
      (Server.setTask { server with backends, observability } worker (some next)) := by
  have sameCalls : ∀ other, onlyBusy worker (some next) other = none ↔
      onlyBusy worker (some task) other = none := by
    intro other
    by_cases same : other = worker
    · simp [onlyBusy, same]
    · simp [onlyBusy, same]
  constructor
  · exact calm.accepting
  · exact calm.fresh
  · change Function.update server.tasks worker (some next) = _
    rw [calm.tasks]
    exact Function.update_idem _ _ _
  · intro other inCall
    exact calm.inside fun free => inCall ((sameCalls other).mpr free)
  · intro other lane atOther
    have settled := calm.lanes atOther
    constructor
    · exact settled.queue
    · intro free
      exact settled.waiting ((sameCalls other).mp free)
    · intro inCall
      exact settled.calling fun free => inCall ((sameCalls other).mpr free)
  · change backends.entries.val ≠ []
    rw [entries]
    exact calm.backends
  · change ∀ entry ∈ backends.entries.val, entry.healthy = true
    rw [entries]
    exact calm.healthy

theorem Calm.perform (calm : Calm count (onlyBusy worker (some (.perform effect rest))) server) :
    ∃ next, server.work worker = some (next, .performed effect) ∧
      Calm count (onlyBusy worker (some rest)) next ∧
      next.observability = (server.apply effect).observability := by
  refine ⟨(server.apply effect).setTask worker (some rest), ?_, ?_, rfl⟩
  · rw [work, calm.found]
    rfl
  · rw [apply_eq]
    exact calm.retask rfl

/-- A backend is selected, as all of them are healthy. -/
theorem Calm.selected {busy : Nat → Option Task} (calm : Calm count busy server) :
    ∃ target, server.backends.selectNext.1 = .ok target := by
  have positive := List.length_pos_iff.mpr calm.backends
  have inside := Nat.mod_lt server.backends.nextIndex.val positive
  obtain ⟨entry, here⟩ : ∃ entry, server.backends.entries.val[
      server.backends.nextIndex.val % server.backends.entries.val.length]? = some entry :=
    ⟨_, List.getElem?_eq_getElem inside⟩
  have healthy := calm.healthy entry (List.mem_of_getElem? here)
  have found : cyclicFind usizeLimit (·.healthy) server.backends.entries.val
      server.backends.nextIndex = some entry :=
    cyclicFind_here here healthy server.backends.nextIndex.isLt
  refine ⟨entry.addr, ?_⟩
  rw [BackendSet.selectNext_eq (Nat.ne_of_gt positive), found]
  rfl

theorem Calm.select {rest : MzaniResult SocketAddr → Task}
    (calm : Calm count (onlyBusy worker (some (.select rest))) server) :
    ∃ next target, server.work worker = some (next, .selected (.ok target)) ∧
      Calm count (onlyBusy worker (some (rest (.ok target)))) next ∧
      next.observability = server.observability := by
  obtain ⟨target, selected⟩ := calm.selected
  refine ⟨Server.setTask { server with backends := server.backends.selectNext.2 } worker
    (some (rest (.ok target))), target, ?_, ?_, rfl⟩
  · rw [work, calm.found]
    simp only [goOn]
    rw [selected]
  · exact calm.retask (BackendSet.entries_selectNext server.backends)

theorem Calm.done (calm : Calm count (onlyBusy worker (some (.done result))) server) :
    ∃ next, server.work worker = some (next, .returned result) ∧
      Calm count (fun _ => none) next ∧ next.observability = server.observability := by
  have busy : onlyBusy worker (some (.done result)) worker ≠ none := by
    simp [onlyBusy]
  have inside := calm.inside busy
  have found := List.getElem?_eq_getElem inside
  generalize server.pool.lanes[worker] = lane at found
  have settled := calm.lanes found
  obtain ⟨req, handling⟩ := settled.calling busy
  let waiting : Lane Nat := { lane with worker := .receiving }
  have worked : server.pool.work worker = some (server.pool.setLane worker waiting) :=
    ThreadPool.work_handling found handling
  refine ⟨Server.setTask { server with pool := server.pool.setLane worker waiting } worker none,
    ?_, ?_, rfl⟩
  · rw [work, calm.found]
    simp only [goOn, worked, Option.map_some]
  · constructor
    · exact calm.accepting.setLane worker waiting
    · exact calm.fresh
    · change Function.update server.tasks worker none = _
      rw [calm.tasks, onlyBusy, Function.update_idem]
      exact Function.update_eq_self worker _
    · nofun
    · intro other otherLane atOther
      rcases ThreadPool.getElem?_setLane atOther with ⟨rfl, rfl⟩ | ⟨different, before⟩
      · exact ⟨settled.queue, fun _ => rfl, fun inCall => absurd rfl inCall⟩
      · have free : onlyBusy worker (some (.done result)) other = none :=
          Function.update_of_ne different _ _
        rw [← free]
        exact calm.lanes before
    · exact calm.backends
    · exact calm.healthy

/-! ## Statistics -/

/-- So many statistics are queued, or all that may be, and the aggregator
waits. -/
structure Metered (held : Nat) (state : Observability) : Prop where
  stats : state.stats.Holds held
  aggregator : state.aggregator = .receiving

theorem metered_apply {held : Nat} (metered : Metered held server.observability)
    (effect : Effect) : Metered held (server.apply effect).observability := by
  cases effect with
  | emitLog record =>
      obtain ⟨_, sends⟩ := Observability.sends_emitLog server.observability record
      constructor
      · exact sends.stats ▸ metered.stats
      · exact sends.aggregator.trans metered.aggregator
  | recordMetrics stats =>
      obtain ⟨sent, _, aggregator⟩ :=
        Observability.stats_recordMetrics server.observability stats
      constructor
      · exact sent ▸ (metered.stats.trySendOrDrop stats).mono (Nat.le_succ held)
      · exact aggregator.trans metered.aggregator
  | _ => exact metered

theorem metered_recordMetrics {held : Nat} (metered : Metered held server.observability)
    (stats : RequestStats) :
    Metered (held + 1) (server.apply (.recordMetrics stats)).observability := by
  obtain ⟨sent, _, aggregator⟩ :=
    Observability.stats_recordMetrics server.observability stats
  constructor
  · exact sent ▸ metered.stats.trySendOrDrop stats
  · exact aggregator.trans metered.aggregator

variable (σ τ snapshotRecord)

/-- The call runs to its end. -/
theorem Calm.finish {task : Task} {asked recorded held : Nat}
    (calm : Calm count (onlyBusy worker (some task)) server)
    (amounts : task.Amounts asked recorded) (metered : Metered held server.observability) :
    ∃ events next outputs,
      (machine snapshotRecord : Transducer _ (Event Nat σ τ) _).run server events =
        some (next, outputs) ∧
      Calm count (fun _ => none) next ∧ Metered (held + recorded) next.observability := by
  induction amounts generalizing server held with
  | done result =>
      obtain ⟨next, took, calmThen, same⟩ := calm.done
      refine ⟨[.work worker], next, _, Transducer.run_single took, calmThen, ?_⟩
      rw [same]
      exact metered
  | @record _ recorded _ stats _ ih =>
      obtain ⟨middle, took, calmThen, same⟩ := calm.perform
      have meteredThen : Metered (held + 1) middle.observability :=
        same ▸ metered_recordMetrics metered stats
      obtain ⟨events, next, outputs, ran, calmLast, meteredLast⟩ := ih calmThen meteredThen
      refine ⟨.work worker :: events, next, _, Transducer.run_cons took ran, calmLast, ?_⟩
      rwa [Nat.add_assoc, Nat.add_comm 1] at meteredLast
  | perform unrecorded _ ih =>
      obtain ⟨middle, took, calmThen, same⟩ := calm.perform
      have meteredThen : Metered held middle.observability :=
        same ▸ metered_apply metered _
      obtain ⟨events, next, outputs, ran, last⟩ := ih calmThen meteredThen
      exact ⟨.work worker :: events, next, _, Transducer.run_cons took ran, last⟩
  | select _ ih =>
      obtain ⟨middle, target, took, calmThen, same⟩ := calm.select
      have meteredThen : Metered held middle.observability := same ▸ metered
      obtain ⟨events, next, outputs, ran, last⟩ := ih target calmThen meteredThen
      exact ⟨.work worker :: events, next, _, Transducer.run_cons took ran, last⟩

variable {σ τ snapshotRecord}

/-! ## As many attempts -/

/-- What a step of a call shows, and what the call asks for after it. -/
inductive Goes (count worker : Nat) (next : Server Nat) : (asked : Nat) → Output Nat → Prop where
  | returned (result : MzaniResult Unit) : Goes count worker next 0 (.returned result)
  | performed {asked recorded : Nat} {rest : Task} (effect : Effect) :
      Calm count (onlyBusy worker (some rest)) next → rest.Amounts asked recorded →
      Goes count worker next asked (.performed effect)
  | selected {asked recorded : Nat} {rest : Task} (result : MzaniResult SocketAddr) :
      Calm count (onlyBusy worker (some rest)) next → rest.Amounts asked recorded →
      Goes count worker next (asked + 1) (.selected result)

theorem Calm.goes {task : Task} {asked recorded : Nat}
    (calm : Calm count (onlyBusy worker (some task)) server)
    (amounts : task.Amounts asked recorded) :
    ∃ next output, server.work worker = some (next, output) ∧
      Goes count worker next asked output := by
  cases amounts with
  | done result =>
      obtain ⟨next, took, _, _⟩ := calm.done
      exact ⟨next, _, took, .returned result⟩
  | record _ rest | perform _ rest =>
      obtain ⟨next, took, calmThen, _⟩ := calm.perform
      exact ⟨next, _, took, .performed _ calmThen rest⟩
  | select rest =>
      obtain ⟨next, target, took, calmThen, _⟩ := calm.select
      exact ⟨next, _, took, .selected _ calmThen (rest target)⟩

theorem Alike.work {left right next other : Server Nat} {output shown : Output Nat}
    (alike : Alike σ τ snapshotRecord left right)
    (taken : left.work worker = some (next, output))
    (also : right.work worker = some (other, shown)) :
    output = shown ∧ Alike σ τ snapshotRecord next other := by
  have stepped : (machine snapshotRecord : Transducer _ (Event Nat σ τ) _).step left
      (.work worker) = some (next, output) := taken
  exact Transducer.Alike.steps alike stepped also

/-- Calls that show the same ask for as many backends. -/
theorem Alike.asked {left right : Server Nat} {task other : Task}
    {countOther asked recorded askedOther recordedOther : Nat}
    (alike : Alike σ τ snapshotRecord left right)
    (calm : Calm count (onlyBusy worker (some task)) left)
    (calmOther : Calm countOther (onlyBusy worker (some other)) right)
    (amounts : task.Amounts asked recorded)
    (amountsOther : other.Amounts askedOther recordedOther) : asked = askedOther := by
  induction amounts generalizing left right other askedOther recordedOther with
  | done result =>
      obtain ⟨next, took, _, _⟩ := calm.done
      obtain ⟨_, _, tookOther, goes⟩ := calmOther.goes amountsOther
      obtain ⟨rfl, _⟩ := alike.work took tookOther
      cases goes
      rfl
  | record _ _ ih | perform _ _ ih =>
      obtain ⟨next, took, calmThen, _⟩ := calm.perform
      obtain ⟨_, _, tookOther, goes⟩ := calmOther.goes amountsOther
      obtain ⟨rfl, stays⟩ := alike.work took tookOther
      cases goes with
      | performed _ calmThenOther rest => exact ih stays calmThen calmThenOther rest
  | select _ ih =>
      obtain ⟨next, target, took, calmThen, _⟩ := calm.select
      obtain ⟨_, _, tookOther, goes⟩ := calmOther.goes amountsOther
      obtain ⟨rfl, stays⟩ := alike.work took tookOther
      cases goes with
      | selected _ calmThenOther rest =>
          rw [ih target stays calmThen calmThenOther rest]

variable {config other : BalancerConfig} {left right : Server Nat}

theorem Started.calm (started : Started config server) (valid : config.validate = .ok ()) :
    Calm 0 (fun _ => none) server ∧ server.pool.nextWorker = 0 := by
  obtain ⟨positive, spawned⟩ := started.pool
  obtain ⟨nonempty, _, _, poolValid⟩ := (BalancerConfig.validate_eq_ok_iff config).mp valid
  have workers := ((PoolConfig.validate_eq_ok_iff config.pool).mp poolValid).1
  constructor
  · constructor
    · rw [spawned]
      exact ThreadPool.accepting_spawn workers
    · rw [spawned]
      nofun
    · exact started.tasks
    · nofun
    · intro worker lane found
      rw [spawned] at found
      obtain ⟨_, rfl⟩ := ThreadPool.getElem?_spawn found
      exact ⟨Channel.open_sync positive, fun _ => rfl, fun inCall => absurd rfl inCall⟩
    · rw [started.backends]
      simpa [BackendSet.new] using nonempty
    · rw [started.backends]
      simp [BackendSet.new]
  · rw [spawned]
    exact Nat.zero_mod _

end

section

variable {snapshotRecord : Metrics → LogRecord} {config other : BalancerConfig}
  {left right : Server Nat}

/-- A request that fails is tried as often. -/
theorem Alike.attempts (alike : Alike Source Source snapshotRecord left right)
    (started : Started config left) (startedOther : Started other right)
    (valid : config.validate = .ok ()) (validOther : other.validate = .ok ()) :
    saturatingSucc config.maxBackendRetries = saturatingSucc other.maxBackendRetries := by
  obtain ⟨calm, first⟩ := started.calm valid
  obtain ⟨calmOther, firstOther⟩ := startedOther.calm validOther
  obtain ⟨next, _, req, ran, calling, _⟩ := calm.serve snapshotRecord unreachable
  obtain ⟨nextOther, _, reqOther, ranOther, callingOther, _⟩ :=
    calmOther.serve snapshotRecord unreachable
  rw [first] at ran calling
  rw [firstOther] at ranOther callingOther
  have alikeThen : Alike Source Source snapshotRecord next nextOther :=
    (Transducer.Alike.runs alike ran ranOther).2
  have asked := alikeThen.asked calling callingOther
    (amounts_handleTask left.context req) (amounts_handleTask right.context reqOther)
  rw [started.context, startedOther.context] at asked
  exact Fin.ext asked

/-! ## As much room for statistics -/

variable (snapshotRecord)

/-- Requests that fail, one after the other. -/
theorem Calm.requests {server : Server Nat} {count held : Nat} (number : Nat)
    (calm : Calm count (fun _ => none) server) (metered : Metered held server.observability) :
    ∃ events next outputs,
      (machine snapshotRecord : Transducer _ (Event Nat Source Source) _).run server events =
        some (next, outputs) ∧
      Metered (held + number) next.observability := by
  induction number generalizing server count held with
  | zero => exact ⟨[], server, [], rfl, metered⟩
  | succ number ih =>
      obtain ⟨called, _, req, first, calling, same, _⟩ := calm.serve snapshotRecord unreachable
      obtain ⟨events, ended, _, second, calmThen, meteredThen⟩ :=
        calling.finish Source Source snapshotRecord (amounts_handleTask server.context req)
          (same ▸ metered)
      obtain ⟨later, next, _, third, meteredLast⟩ := ih calmThen meteredThen
      refine ⟨_, next, _, Transducer.run_append first (Transducer.run_append second third), ?_⟩
      rwa [Nat.add_assoc, Nat.add_comm 1] at meteredLast

theorem exists_aggregates {server : Server Nat} {count : Nat}
    (laden : server.observability.Laden count) :
    ∃ next outputs,
      (machine snapshotRecord : Transducer _ (Event Nat Source Source) _).run server
        (List.replicate count (.aggregate true)) = some (next, outputs) := by
  induction count generalizing server with
  | zero => exact ⟨server, [], rfl⟩
  | succ count ih =>
      obtain ⟨observability, aggregated, ladenThen⟩ := laden.aggregate snapshotRecord
      let middle : Server Nat := { server with observability }
      have first : server.step snapshotRecord (.aggregate true : Event Nat Source Source) =
          some (middle, report snapshotRecord server.observability) := by
        simp [step, aggregated, middle]
      obtain ⟨next, outputs, ran⟩ := ih (show middle.observability.Laden count from ladenThen)
      exact ⟨next, _, Transducer.run_cons first ran⟩

theorem aggregates_le {server next : Server Nat} {count : Nat} {outputs : List (Output Nat)}
    (run : (machine snapshotRecord : Transducer _ (Event Nat Source Source) _).run server
      (List.replicate count (.aggregate true)) = some (next, outputs))
    (senders : server.observability.stats.senders ≠ 0) :
    count ≤ server.observability.workload := by
  induction count generalizing server outputs with
  | zero => exact Nat.zero_le _
  | succ count ih =>
      obtain ⟨middle, output, rest, taken, after, _⟩ := Transducer.run_cons_eq_some_iff.mp run
      obtain ⟨observability, aggregated, same⟩ := Option.map_eq_some_iff.mp taken
      cases same
      have kept := (Observability.linked_aggregate aggregated).stats.senders
      have less := Observability.workload_of_aggregate senders aggregated
      have fewer := ih after (by
        rw [kept]
        exact senders)
      rw [less]
      exact Nat.succ_le_succ fewer

variable {snapshotRecord}

/-- The aggregator empties a full channel in four steps for each request that
it has room for. -/
theorem Alike.metricsChannelCapacity_le (alike : Alike Source Source snapshotRecord left right)
    (started : Started config left) (startedOther : Started other right)
    (valid : config.validate = .ok ()) :
    config.pool.metricsChannelCapacity ≤ other.pool.metricsChannelCapacity := by
  let capacity := config.pool.metricsChannelCapacity.val
  have calm := (started.calm valid).1
  have metered : Metered 0 left.observability := ⟨started.stats.holds, started.aggregator⟩
  obtain ⟨events, next, outputs, ran, full⟩ := calm.requests snapshotRecord capacity metered
  have queued : capacity ≤ next.observability.stats.queue.length := by
    have holds := full.stats.queue
    rw [(evolves_of_run ran).channels.stats.capacity, started.stats.capacity] at holds
    omega
  have laden : next.observability.Laden (4 * capacity) := by
    constructor
    · rw [full.aggregator]
      nofun
    · rw [(evolves_of_run ran).channels.stats.senders]
      exact started.stats.senders
    · exact (Nat.mul_le_mul_left 4 queued).trans (Nat.le_add_right _ _)
  obtain ⟨last, shown, aggregated⟩ := exists_aggregates snapshotRecord laden
  obtain ⟨nextOther, ranOther, stays⟩ := Transducer.Alike.run alike ran
  obtain ⟨lastOther, aggregatedOther, _⟩ := Transducer.Alike.run stays aggregated
  have kept := (evolves_of_run ranOther).channels.stats
  have bound := aggregates_le snapshotRecord aggregatedOther (by
    rw [kept.senders]
    exact startedOther.stats.senders)
  have room := nextOther.observability.stats.bounded
  rw [kept.capacity, startedOther.stats.capacity] at room
  have rank := nextOther.observability.workload_le
  rw [Fin.le_def]
  omega

end

end Server

end Mzani
