import Mzani.Balancer.Server

/-!
# What a server shows under load

Two servers that no sequence of events tells apart have as many workers, which
the record of the start names, and as much room: failures of the accept loop
fill the log channel until the writer goes on, and connections fill the queues
until a worker goes on.
-/

namespace Mzani

open Support

namespace ThreadPool

variable {Stream : Type}

/-- The pool takes connections, and no call of `submit` is on. -/
structure Accepting (pool : ThreadPool Stream) : Prop where
  calls : pool.calls = []
  stopping : pool.stopping = false
  shuttingDown : pool.shuttingDown = false
  senders : pool.connectionTxs = List.range pool.lanes.length
  staffed : 0 < pool.lanes.length

/-- The worker that the next connection goes to. -/
def nextWorker (pool : ThreadPool Stream) : Nat :=
  dispatchWorkerIndex pool.dispatchIndex pool.lanes.length

/-- A connection has been queued for the worker that is next. -/
def queued (pool : ThreadPool Stream) (stream : Stream) (lane : Lane Stream) :
    ThreadPool Stream :=
  { pool.setLane pool.nextWorker lane with
    dispatchIndex := pool.dispatchIndex + 1
    submitted := pool.submitted ++ [stream] }

theorem Accepting.nextWorker_lt {pool : ThreadPool Stream} (accepting : pool.Accepting) :
    pool.nextWorker < pool.lanes.length :=
  Nat.mod_lt _ accepting.staffed

theorem Accepting.setLane {pool : ThreadPool Stream} (accepting : pool.Accepting)
    (worker : Nat) (lane : Lane Stream) : (pool.setLane worker lane).Accepting := by
  have length : (pool.setLane worker lane).lanes.length = pool.lanes.length :=
    List.length_set
  constructor
  · exact accepting.calls
  · exact accepting.stopping
  · exact accepting.shuttingDown
  · rw [length]
    exact accepting.senders
  · rw [length]
    exact accepting.staffed

theorem Accepting.queued {pool : ThreadPool Stream} (accepting : pool.Accepting)
    (stream : Stream) (lane : Lane Stream) : (pool.queued stream lane).Accepting := by
  have kept := accepting.setLane pool.nextWorker lane
  exact ⟨kept.calls, kept.stopping, kept.shuttingDown, kept.senders, kept.staffed⟩

theorem accepting_spawn {config : PoolConfig} {positive : 0 < config.perWorkerQueue.val}
    (workers : config.workers ≠ 0) :
    (spawn config positive false : ThreadPool Stream).Accepting := by
  have length : (spawn config positive false : ThreadPool Stream).lanes.length =
      config.workers.val := List.length_replicate
  constructor
  · rfl
  · rfl
  · rfl
  · rw [length]
    rfl
  · rw [length]
    exact Nat.pos_of_ne_zero fun zero => workers (Fin.ext zero)

/-- The pool while a call of `submit` is on. -/
def calling (pool : ThreadPool Stream) (stream : Stream) (step : SubmitStep) :
    ThreadPool Stream :=
  { pool with calls := [{ stream, step }], submitted := pool.submitted ++ [stream] }

/-- The pool before the attempt to queue the connection. -/
def offered (pool : ThreadPool Stream) (stream : Stream) : ThreadPool Stream :=
  { pool.calling stream (.dispatched pool.nextWorker) with
    dispatchIndex := pool.dispatchIndex + 1 }

variable {pool : ThreadPool Stream} {stream : Stream}

theorem enterSubmit_accepting [DecidableEq Stream] (accepting : pool.Accepting)
    (fresh : stream ∉ pool.submitted) :
    pool.enterSubmit stream = some (pool.calling stream .entered) := by
  rw [enterSubmit]
  simp [accepting.stopping, accepting.calls, fresh, calling]

theorem advance_entered (accepting : pool.Accepting) :
    (pool.calling stream .entered).advance 0 = some (pool.calling stream .accepted) := by
  simp [advance, accepting.shuttingDown, calling, setCall]

theorem advance_accepted (accepting : pool.Accepting) :
    (pool.calling stream .accepted).advance 0 = some (pool.offered stream) := by
  have length : pool.connectionTxs.length = pool.lanes.length := by
    rw [accepting.senders, List.length_range]
  have nonempty : pool.connectionTxs ≠ [] := by
    rw [← List.length_pos_iff, length]
    exact accepting.staffed
  simp [advance, calling, offered, setCall, nonempty, length, nextWorker]

/-- The last step of `submit`: the connection is queued, or given back. -/
theorem advance_dispatched {lane : Lane Stream} (accepting : pool.Accepting)
    (found : pool.lanes[pool.nextWorker]? = some lane) :
    (pool.offered stream).advance 0 =
      match lane.queue.trySend stream with
      | .sent queue => some (pool.queued stream { lane with queue })
      | .full =>
          some
            { pool with
              dispatchIndex := pool.dispatchIndex + 1
              submitted := pool.submitted ++ [stream]
              returned := pool.returned ++ [(stream, .poolFull)] }
      | .disconnected =>
          some
            { pool with
              dispatchIndex := pool.dispatchIndex + 1
              submitted := pool.submitted ++ [stream]
              returned := pool.returned ++ [(stream, .shutdownInProgress)] } := by
  have sender : pool.connectionTxs[pool.nextWorker]? = some pool.nextWorker := by
    rw [accepting.senders]
    exact List.getElem?_range accepting.nextWorker_lt
  simp only [advance, offered, calling, List.getElem?_cons_zero, sender, found]
  cases lane.queue.trySend stream with
  | sent queue => simp [endCall, setLane, queued, accepting.calls]
  | full => simp [giveBack, endCall, accepting.calls]
  | disconnected => simp [giveBack, endCall, accepting.calls]

end ThreadPool

theorem decimal_injective {number other : Nat} (same : decimal number = decimal other) :
    number = other := by
  let limit := max number other + 1
  have read : parseUnsigned limit (decimal number) = some number :=
    parseUnsigned_toDigits (by omega)
  have readOther : parseUnsigned limit (decimal other) = some other :=
    parseUnsigned_toDigits (by omega)
  rw [same, readOther] at read
  exact (Option.some.inj read).symm

/-- The first record names the number of workers. -/
theorem value_serverStart (listen : SocketAddr) (backends : List SocketAddr) (workers : Nat) :
    (serverStart listen backends workers).value "worker_count" = some (decimal workers) := by
  apply LogRecord.value_field_self
  rw [LogRecord.value_field_of_ne (by decide), LogRecord.value_field_of_ne (by decide)]
  rfl

namespace Server

section

variable {Stream σ τ : Type} [DecidableEq Stream] [Read σ] [Read τ]
  {snapshotRecord : Metrics → LogRecord} {server next left right : Server Stream}
  {config other : BalancerConfig}

/-! ## The log -/

variable (σ τ snapshotRecord)

theorem step_write {record : LogRecord} {rest : List LogRecord}
    (queue : server.observability.log.queue = record :: rest) :
    ∃ next, (machine snapshotRecord : Transducer _ (Event Stream σ τ) _).step server .write =
        some (next, .wrote record) ∧
      next.observability.log.queue = rest := by
  obtain ⟨observability, wrote, left⟩ := Observability.exists_write queue
  refine ⟨{ server with observability }, ?_, left⟩
  simp [machine, step, wrote, written, queue]

/-- The writer goes on as long as records are queued. -/
theorem exists_writes {count : Nat} (queued : count ≤ server.observability.log.queue.length) :
    ∃ next outputs, (machine snapshotRecord : Transducer _ (Event Stream σ τ) _).run server
      (List.replicate count .write) = some (next, outputs) := by
  induction count generalizing server with
  | zero => exact ⟨server, [], rfl⟩
  | succ count ih =>
      cases pending : server.observability.log.queue with
      | nil =>
          rw [pending] at queued
          cases queued
      | cons record rest =>
          obtain ⟨middle, wrote, left⟩ := step_write σ τ snapshotRecord pending
          have fewer : count ≤ middle.observability.log.queue.length := by
            rw [left]
            rw [pending] at queued
            exact Nat.le_of_succ_le_succ queued
          obtain ⟨last, outputs, ran⟩ := ih fewer
          exact ⟨last, _, Transducer.run_cons wrote ran⟩

/-- The writer waits once no record is queued. -/
theorem writes_le {count : Nat} {outputs : List (Output Stream)}
    (run : (machine snapshotRecord : Transducer _ (Event Stream σ τ) _).run server
      (List.replicate count .write) = some (next, outputs))
    (senders : server.observability.log.senders ≠ 0) :
    count ≤ server.observability.log.queue.length := by
  induction count generalizing server outputs with
  | zero => exact Nat.zero_le _
  | succ count ih =>
      obtain ⟨middle, output, rest, taken, after, _⟩ := Transducer.run_cons_eq_some_iff.mp run
      obtain ⟨observability, wrote, same⟩ := Option.map_eq_some_iff.mp taken
      cases same
      obtain ⟨record, queue⟩ := Observability.queue_of_write senders wrote
      have linked := Observability.linked_write wrote
      have fewer := ih after (by
        rw [linked.log.senders]
        exact senders)
      rw [queue, List.length_cons]
      exact Nat.succ_le_succ fewer

/-- A failure of the accept loop is logged. -/
theorem exists_acceptErrors (error : IoError) (count : Nat) {held : Nat}
    (idle : server.pool.calls = []) (holds : server.observability.log.Holds held) :
    ∃ next outputs, (machine snapshotRecord : Transducer _ (Event Stream σ τ) _).run server
        (List.replicate count (.acceptError error)) = some (next, outputs) ∧
      next.observability.log.Holds (held + count) := by
  induction count generalizing server held with
  | zero => exact ⟨server, [], rfl, holds⟩
  | succ count ih =>
      let entry : LogEntry := .acceptError error server.config.listen
      obtain ⟨warnings, sends⟩ :=
        Observability.sends_emitLog server.observability entry.record
      have logged : server.step snapshotRecord (.acceptError error : Event Stream σ τ) =
          some (server.logAccept entry) := by
        simp [step, idle, entry]
      have more : (server.logAccept entry).1.observability.log.Holds (held + 1) := by
        apply (sends.holds holds).mono
        rw [List.length_cons]
        omega
      have stillIdle : (server.logAccept entry).1.pool.calls = [] := idle
      obtain ⟨last, outputs, ran, full⟩ := ih stillIdle more
      refine ⟨last, _, Transducer.run_cons logged ran, ?_⟩
      rwa [Nat.add_assoc, Nat.add_comm 1] at full

variable {σ τ snapshotRecord}

/-- The record of the start names the number of workers. -/
theorem Alike.workers (alike : Alike σ τ snapshotRecord left right)
    (started : Started config left) (startedOther : Started other right) :
    config.pool.workers = other.pool.workers := by
  obtain ⟨next, wrote, _⟩ := step_write σ τ snapshotRecord started.log.queue
  obtain ⟨nextOther, wroteOther, _⟩ := step_write σ τ snapshotRecord startedOther.log.queue
  have shown := (Transducer.Alike.steps alike wrote wroteOther).1
  injection shown with sameRecord
  have sameCount := congrArg (·.value "worker_count") sameRecord
  simp only [value_serverStart, Option.some.injEq] at sameCount
  exact Fin.ext (decimal_injective sameCount)

/-- The writer empties a full log in as many steps as it has room. -/
theorem Alike.logChannelCapacity_le (alike : Alike σ τ snapshotRecord left right)
    (started : Started config left) (startedOther : Started other right) :
    config.pool.logChannelCapacity ≤ other.pool.logChannelCapacity := by
  let capacity := config.pool.logChannelCapacity.val
  have idle : left.pool.calls = [] := by
    obtain ⟨positive, spawned⟩ := started.pool
    rw [spawned]
    rfl
  obtain ⟨next, outputs, ran, full⟩ := exists_acceptErrors σ τ snapshotRecord
    ⟨.other, "accept"⟩ capacity idle started.log.holds
  have queued : capacity ≤ next.observability.log.queue.length := by
    have holds := full.queue
    rw [(evolves_of_run ran).channels.log.capacity, started.log.capacity] at holds
    omega
  obtain ⟨last, written, wrote⟩ := exists_writes σ τ snapshotRecord queued
  obtain ⟨nextOther, ranOther, stays⟩ := Transducer.Alike.run alike ran
  obtain ⟨lastOther, wroteOther, _⟩ := Transducer.Alike.run stays wrote
  have kept := (evolves_of_run ranOther).channels.log
  have bound : capacity ≤ nextOther.observability.log.queue.length := by
    apply writes_le σ τ snapshotRecord wroteOther
    rw [kept.senders]
    exact startedOther.log.senders
  have room := nextOther.observability.log.bounded
  rw [kept.capacity, startedOther.log.capacity] at room
  exact Fin.le_def.mpr (bound.trans room)

end

/-! ## An arrival -/

section

variable {Stream σ τ : Type} [DecidableEq Stream] [Read σ] [Read τ]
  {snapshotRecord : Metrics → LogRecord}

/-- A connection arrives, and `submit` returns. -/
def arrival (stream : Stream) : List (Event Stream σ τ) :=
  [.accept stream fun _ => .ok (), .submit, .submit, .submit]

variable {server : Server Stream} {stream : Stream} {lane : Lane Stream}

omit [DecidableEq Stream] in
theorem submit_quiet {pool : ThreadPool Stream} (advanced : server.pool.advance 0 = some pool)
    (kept : pool.returned = server.pool.returned) :
    server.submit = some ({ server with pool }, .quiet) := by
  rw [submit, advanced]
  simp only [kept, List.drop_length]

variable (σ τ snapshotRecord)

/-- `submit` up to the attempt to queue the connection. -/
theorem run_offer (accepting : server.pool.Accepting)
    (fresh : stream ∉ server.pool.submitted) :
    (machine snapshotRecord : Transducer _ (Event Stream σ τ) _).run server
        [.accept stream fun _ => .ok (), .submit, .submit] =
      some ({ server with pool := server.pool.offered stream },
        [.quiet, .quiet, .quiet]) := by
  let entered : Server Stream :=
    { server with pool := server.pool.calling stream .entered }
  let accepted : Server Stream :=
    { server with pool := server.pool.calling stream .accepted }
  have first : server.accept stream (fun _ => .ok ()) = some (entered, .quiet) := by
    simp [accept, accepting.calls, accepting.shuttingDown, fresh, entered,
      ThreadPool.enterSubmit_accepting accepting fresh]
  have second : entered.submit = some (accepted, .quiet) :=
    submit_quiet (ThreadPool.advance_entered accepting) rfl
  have third : accepted.submit = some _ :=
    submit_quiet (ThreadPool.advance_accepted accepting) rfl
  exact Transducer.run_cons first (Transducer.run_cons second (Transducer.run_single third))

theorem run_arrival {queue : Channel Stream} (accepting : server.pool.Accepting)
    (fresh : stream ∉ server.pool.submitted)
    (found : server.pool.lanes[server.pool.nextWorker]? = some lane)
    (sent : lane.queue.trySend stream = .sent queue) :
    (machine snapshotRecord : Transducer _ (Event Stream σ τ) _).run server (arrival stream) =
      some ({ server with pool := server.pool.queued stream { lane with queue } },
        [.quiet, .quiet, .quiet, .quiet]) := by
  let offered : Server Stream := { server with pool := server.pool.offered stream }
  have advanced : offered.pool.advance 0 = _ :=
    ThreadPool.advance_dispatched accepting found
  rw [sent] at advanced
  have last : offered.submit = some _ := submit_quiet advanced rfl
  exact Transducer.run_concat (run_offer σ τ snapshotRecord accepting fresh) last

/-- The client is turned away. -/
theorem run_arrival_full (accepting : server.pool.Accepting)
    (fresh : stream ∉ server.pool.submitted)
    (found : server.pool.lanes[server.pool.nextWorker]? = some lane)
    (full : lane.queue.trySend stream = .full) :
    ∃ next, (machine snapshotRecord : Transducer _ (Event Stream σ τ) _).run server
        (arrival stream) =
      some (next, [.quiet, .quiet, .quiet,
        .answered stream (serviceUnavailable "worker queue full")]) := by
  let offered : Server Stream := { server with pool := server.pool.offered stream }
  have advanced : offered.pool.advance 0 = _ :=
    ThreadPool.advance_dispatched accepting found
  rw [full] at advanced
  have last : ∃ next, offered.submit =
      some (next, .answered stream (serviceUnavailable "worker queue full")) := by
    rw [submit, advanced]
    have same : offered.pool.returned = server.pool.returned := rfl
    simp [same, reject]
  obtain ⟨next, turned⟩ := last
  exact ⟨next, Transducer.run_concat (run_offer σ τ snapshotRecord accepting fresh) turned⟩

end

/-! ## Full queues -/

section

variable {σ τ : Type} [Read σ] [Read τ] {snapshotRecord : Metrics → LogRecord}

/-- So many connections have been queued, from worker to worker. -/
structure Filled (config : PoolConfig) (count : Nat) (server : Server Nat) : Prop where
  accepting : server.pool.Accepting
  workers : server.pool.lanes.length = config.workers.val
  dispatchIndex : server.pool.dispatchIndex.val = count
  submitted : ∀ stream ∈ server.pool.submitted, stream < count
  lanes : ∀ ⦃worker lane⦄, server.pool.lanes[worker]? = some lane →
    ∃ queue, lane.queue.Open config.perWorkerQueue.val queue ∧
      count ≤ queue.length * config.workers.val + worker ∧
      queue.length * config.workers.val + worker < count + config.workers.val

variable {config : PoolConfig} {count : Nat} {server : Server Nat}

theorem Filled.fresh (filled : Filled config count server) : count ∉ server.pool.submitted :=
  fun member => Nat.lt_irrefl count (filled.submitted count member)

theorem Filled.positive (filled : Filled config count server) : 0 < config.workers.val := by
  rw [← filled.workers]
  exact filled.accepting.staffed

/-- The queue that is next holds one connection for each full round. -/
theorem Filled.next (filled : Filled config count server) :
    ∃ lane queue, server.pool.lanes[server.pool.nextWorker]? = some lane ∧
      lane.queue.Open config.perWorkerQueue.val queue ∧
      queue.length = count / config.workers.val ∧
      server.pool.nextWorker = count % config.workers.val := by
  have bound := filled.accepting.nextWorker_lt
  have next : server.pool.nextWorker = count % config.workers.val := by
    unfold ThreadPool.nextWorker ThreadPool.dispatchWorkerIndex
    rw [filled.dispatchIndex, filled.workers]
  have found := List.getElem?_eq_getElem bound
  obtain ⟨queue, opened, least, most⟩ := filled.lanes found
  refine ⟨_, queue, found, opened, ?_, next⟩
  have positive := filled.positive
  have division := Nat.div_add_mod count config.workers.val
  rw [next, Nat.mul_comm] at least most
  have lower : count / config.workers.val ≤ queue.length :=
    Nat.le_of_mul_le_mul_left (by omega) positive
  have upper : config.workers.val * queue.length <
      config.workers.val * (count / config.workers.val + 1) := by
    rw [Nat.mul_succ]
    omega
  have below := Nat.lt_of_mul_lt_mul_left upper
  omega

variable (σ τ snapshotRecord)

theorem Filled.arrival (filled : Filled config count server)
    (room : count < config.workers.val * config.perWorkerQueue.val)
    (noWrap : count + 1 < usizeLimit) :
    ∃ next, (machine snapshotRecord : Transducer _ (Event Nat σ τ) _).run server
        (arrival count) = some (next, [.quiet, .quiet, .quiet, .quiet]) ∧
      Filled config (count + 1) next := by
  obtain ⟨lane, queue, found, opened, length, next⟩ := filled.next
  have fits : queue.length < config.perWorkerQueue.val := by
    rw [length]
    exact Nat.div_lt_of_lt_mul room
  obtain ⟨longer, sent, openedThen⟩ := opened.trySend fits count
  refine ⟨_, run_arrival σ τ snapshotRecord filled.accepting filled.fresh found sent, ?_⟩
  constructor
  · exact filled.accepting.queued count _
  · exact List.length_set.trans filled.workers
  · have advanced : (server.pool.dispatchIndex + 1).val = count + 1 := by
      rw [Fin.val_add, filled.dispatchIndex]
      exact Nat.mod_eq_of_lt noWrap
    exact advanced
  · intro stream member
    rcases List.mem_append.mp member with before | new
    · exact Nat.lt_succ_of_lt (filled.submitted stream before)
    · rw [List.mem_singleton.mp new]
      exact Nat.lt_succ_self count
  · intro worker atWorker atLane
    rcases ThreadPool.getElem?_setLane atLane with ⟨rfl, rfl⟩ | ⟨different, before⟩
    · have positive := filled.positive
      have exactly : queue.length * config.workers.val + server.pool.nextWorker = count := by
        rw [length, next, Nat.mul_comm]
        exact Nat.div_add_mod count config.workers.val
      refine ⟨_, openedThen, ?_, ?_⟩
      · rw [List.length_append, List.length_singleton, Nat.succ_mul]
        omega
      · rw [List.length_append, List.length_singleton, Nat.succ_mul]
        omega
    · obtain ⟨held, openedHeld, least, most⟩ := filled.lanes before
      have inside : worker < config.workers.val := by
        rw [← filled.workers]
        exact (List.getElem?_eq_some_iff.mp before).1
      -- this worker is not the next one, so its queue is not at the lower bound
      have strict : count ≠ held.length * config.workers.val + worker := by
        intro same
        have remainder : count % config.workers.val = worker := by
          rw [same, Nat.mul_add_mod_self_right, Nat.mod_eq_of_lt inside]
        exact different (remainder.symm.trans next.symm)
      exact ⟨held, openedHeld, by omega, by omega⟩

/-- The same connections fill the queues of all configurations with the room. -/
theorem exists_filled (limit : Nat) (noWrap : limit < usizeLimit) :
    ∃ events : List (Event Nat σ τ), ∀ config : PoolConfig,
      limit ≤ config.workers.val * config.perWorkerQueue.val →
        (machine snapshotRecord).Leads events (Filled config 0) (Filled config limit) := by
  induction limit with
  | zero => exact ⟨[], fun config _ => .refl _⟩
  | succ limit ih =>
      obtain ⟨events, fills⟩ := ih (by omega)
      refine ⟨events ++ arrival limit, fun config room => ?_⟩
      apply (fills config (by omega)).trans
      intro server filled
      obtain ⟨next, ran, filledThen⟩ := filled.arrival σ τ snapshotRecord (by omega) noWrap
      exact ⟨next, _, ran, filledThen⟩

variable {σ τ snapshotRecord}

theorem Started.filled {config : BalancerConfig} {server : Server Nat}
    (started : Started config server) (workers : config.pool.workers ≠ 0) :
    Filled config.pool 0 server := by
  obtain ⟨positive, spawned⟩ := started.pool
  constructor
  · rw [spawned]
    exact ThreadPool.accepting_spawn workers
  · rw [spawned]
    exact List.length_replicate
  · rw [spawned]
    rfl
  · rw [spawned]
    nofun
  · intro worker lane found
    rw [spawned] at found
    obtain ⟨inside, rfl⟩ := ThreadPool.getElem?_spawn found
    refine ⟨[], Channel.open_sync positive, Nat.zero_le _, ?_⟩
    simpa using inside

/-- With as many workers the longer queue takes a connection more. -/
theorem Alike.perWorkerQueue_le {config other : BalancerConfig} {left right : Server Nat}
    (alike : Alike σ τ snapshotRecord left right) (started : Started config left)
    (startedOther : Started other right) (workers : config.pool.workers ≠ 0)
    (sameWorkers : other.pool.workers = config.pool.workers)
    (noWrap : config.pool.workers.val * config.pool.perWorkerQueue.val + 1 < usizeLimit) :
    other.pool.perWorkerQueue ≤ config.pool.perWorkerQueue := by
  by_contra longer
  rw [Fin.le_def, Nat.not_le] at longer
  have positive : 0 < config.pool.workers.val :=
    Nat.pos_of_ne_zero fun zero => workers (Fin.ext zero)
  let limit := config.pool.workers.val * config.pool.perWorkerQueue.val
  have room : limit < other.pool.workers.val * other.pool.perWorkerQueue.val := by
    rw [sameWorkers]
    exact Nat.mul_lt_mul_of_pos_left longer positive
  have filled := started.filled workers
  have filledOther := startedOther.filled (by rwa [sameWorkers])
  obtain ⟨events, fills⟩ := exists_filled σ τ snapshotRecord limit (by omega)
  obtain ⟨next, nextOther, stays, full, fullOther⟩ :=
    Transducer.Alike.leads alike (fills config.pool (Nat.le_refl limit))
      (fills other.pool (Nat.le_of_lt room)) filled filledOther
  obtain ⟨lane, queue, found, opened, length, _⟩ := full.next
  have answer : lane.queue.trySend limit = .full := by
    rw [Channel.trySend_eq_full_iff, opened.queue, opened.capacity, length]
    exact ⟨opened.receiver, Nat.mul_div_right _ positive⟩
  obtain ⟨last, turned⟩ := run_arrival_full σ τ snapshotRecord full.accepting full.fresh found answer
  obtain ⟨lastOther, took, _⟩ := fullOther.arrival σ τ snapshotRecord room noWrap
  have shown := (Transducer.Alike.runs stays turned took).1
  cases shown

end

end Server

end Mzani
