import Mzani.Balancer.ServerDispatch
import Mzani.Balancer.ServerMetrics
import Mzani.Balancer.ServerRefinement
import Mzani.Core.PoolQuiescence
import Mzani.Core.PoolSaturation
import Mzani.State.CallLength

/-!
# A server that comes to rest

What a connection makes the threads of a server do is bounded, in whatever order
they take their turns.  While no connection arrives and no backend is probed they
come to rest, and then all connections are done with and both channels are empty.
-/

namespace Mzani

open Support

variable {Stream : Type}

/-! ## The channels -/

/-- What the aggregator has left to do before it waits again. -/
def Aggregating.remaining : Aggregating → Nat
  | .receiving => 0
  | .received _ => 5
  | .reporting _ _ => 4
  | .snapshotting => 2
  | .exited => 0

namespace Observability

/-- What the aggregator and the log writer have left to do. -/
def remaining (state : Observability) : Nat :=
  state.log.queue.length + 6 * state.stats.queue.length + state.aggregator.remaining

variable {state next : Observability}

theorem length_trySendOrDrop_le {α : Type} (channel : Channel α) (item : α) :
    (channel.trySendOrDrop item).queue.length ≤ channel.queue.length + 1 := by
  rcases channel.trySendOrDrop_cases item with sent | same
  · rw [sent.queue, List.length_append, List.length_singleton]
  · rw [same]
    exact Nat.le_succ _

theorem length_send_le (state : Observability) (emitter : Emitter) (record : LogRecord) :
    (state.send emitter record).log.queue.length ≤ state.log.queue.length + 1 ∧
      (state.send emitter record).stats = state.stats ∧
      (state.send emitter record).aggregator = state.aggregator := by
  have sends := sends_send state emitter record
  refine ⟨?_, sends.stats, sends.aggregator⟩
  rw [sends.log]
  exact length_trySendOrDrop_le state.log record

theorem remaining_emitLog (alive : state.log.Alive) (record : LogRecord) :
    (state.emitLog record).remaining ≤ state.remaining + 1 := by
  obtain ⟨warnings, sends⟩ := sends_emitLog state record
  obtain ⟨refused, logs⟩ := logs_emitLog alive record
  obtain ⟨taken, _, count, order⟩ := logs.log.order
  have queued := congrArg List.length order
  simp only [List.nil_append, List.length_append, List.length_singleton] at queued count
  rw [remaining, remaining, sends.stats, sends.aggregator]
  omega

/-- A probe is logged at most once. -/
theorem remaining_probed (state : Observability) (health : HealthConfig) (backends : BackendSet)
    (probe : Probe) :
    (((backends.probeBackend health probe).2.map (·.2)).foldl (·.send .sink ·) state).remaining ≤
      state.remaining + 1 := by
  have once (report : Bool) (record : LogRecord) :
      (((if report = true then [(probe.addr, record)] else []).map (·.2)).foldl
        (·.send .sink ·) state).remaining ≤ state.remaining + 1 := by
    cases report with
    | false => exact Nat.le_succ _
    | true =>
        obtain ⟨queued, stats, aggregator⟩ := length_send_le state .sink record
        change (state.send .sink record).remaining ≤ state.remaining + 1
        rw [remaining, remaining, stats, aggregator]
        omega
  unfold BackendSet.probeBackend
  dsimp only
  split
  · exact once _ _
  · exact once _ _

theorem remaining_recordMetrics (state : Observability) (stats : RequestStats) :
    (state.recordMetrics stats).remaining ≤ state.remaining + 6 := by
  obtain ⟨sent, log, aggregator⟩ := stats_recordMetrics state stats
  have queued := length_trySendOrDrop_le state.stats stats
  rw [remaining, remaining, sent, log, aggregator]
  omega

theorem remaining_write (senders : state.log.senders ≠ 0) (written : state.write = some next) :
    next.remaining < state.remaining := by
  obtain ⟨record, queue⟩ := queue_of_write senders written
  have same := sameStats_write written
  rw [remaining, remaining, same.stats, same.aggregator, queue, List.length_cons]
  omega

theorem remaining_aggregate {snapshotRecord : Metrics → LogRecord} {elapsed : Bool}
    (senders : state.stats.senders ≠ 0)
    (aggregated : state.aggregate snapshotRecord elapsed = some next) :
    next.remaining < state.remaining := by
  unfold aggregate at aggregated
  split at aggregated
  case h_1 receiving =>
      split at aggregated
      case h_1 stats channel answer =>
          cases aggregated
          have queue := (Channel.received_of_recv answer).queue
          simp only [remaining, receiving, queue, List.length_cons, Aggregating.remaining]
          omega
      case h_2 gone => exact absurd (Channel.recv_eq_disconnected_iff.mp gone).2 senders
      case h_3 => cases aggregated
  case h_2 stats received =>
      cases aggregated
      simp only [remaining, received, Aggregating.remaining]
      omega
  case h_3 stats due reporting =>
      cases aggregated
      obtain ⟨queued, sameStats, _⟩ := length_send_le state .aggregator
        (stats.toMetricsRecord ⟨stats.reqId, stats.workerId⟩)
      have atMost : (if due = true then Aggregating.snapshotting else .receiving).remaining ≤ 2 := by
        cases due <;> decide
      simp only [remaining, reporting, sameStats, Aggregating.remaining] at atMost ⊢
      omega
  case h_4 snapshotting =>
      cases aggregated
      obtain ⟨queued, sameStats, _⟩ := length_send_le state .aggregator
        (snapshotRecord state.metrics)
      simp only [remaining, snapshotting, sameStats, Aggregating.remaining]
      omega
  case h_5 => cases aggregated

/-- An aggregator that cannot go on waits for statistics. -/
theorem receiving_of_stuck {snapshotRecord : Metrics → LogRecord} {elapsed : Bool}
    (running : state.aggregator ≠ .exited)
    (stuck : state.aggregate snapshotRecord elapsed = none) :
    state.aggregator = .receiving ∧ state.stats.queue = [] := by
  unfold aggregate at stuck
  split at stuck
  case h_1 receiving =>
      refine ⟨receiving, ?_⟩
      cases pending : state.stats.queue with
      | nil => rfl
      | cons stats rest =>
          obtain ⟨channel, answer, _⟩ := Channel.exists_recv pending
          rw [answer] at stuck
          cases stuck
  case h_2 => cases stuck
  case h_3 => cases stuck
  case h_4 => cases stuck
  case h_5 exited => exact absurd exited running

end Observability

/-! ## The supply -/

/-- The step is one of the threads that serve connections: no connection arrives
and no backend is probed. -/
def Event.internal {σ τ : Type} : Event Stream σ τ → Bool
  | .submit | .work _ | .call _ _ | .aggregate _ | .write => true
  | .accept _ _ | .acceptError _ | .monitor _ => false

namespace Server

variable {server next : Server Stream} {output : Output Stream} {length worker supply : Nat}

/-- The calls of the workers are over after so many steps, and nobody else has
any. -/
def Bounded (tasks : Nat → Option Task) (left : Nat → Nat) : Prop :=
  ∀ worker, (tasks worker).elim (left worker = 0) (Task.Within (left worker))

/-- So much is left to do for the connections that have arrived, and with the
records and the statistics in the channels. -/
def Loaded (length : Nat) (server : Server Stream) (supply : Nat) : Prop :=
  ∃ left, Bounded server.tasks left ∧
    server.pool.remaining length left + server.observability.remaining = supply

theorem Bounded.update {tasks : Nat → Option Task} {left : Nat → Nat} {task : Option Task}
    {value : Nat} (bounded : Bounded tasks left) (worker : Nat)
    (here : task.elim (value = 0) (Task.Within value)) :
    Bounded (Function.update tasks worker task) (Function.update left worker value) := by
  intro other
  by_cases same : other = worker
  · subst same
    rw [Function.update_self, Function.update_self]
    exact here
  · rw [Function.update_of_ne same, Function.update_of_ne same]
    exact bounded other

/-- What the threads rely on in a running server. -/
structure Ready (server : Server Stream) : Prop where
  attended : Attended server
  wired : server.pool.Wired server.config.pool.perWorkerQueue.val
  dispatching : server.pool.Dispatching
  senders : ∀ worker < server.pool.lanes.length, worker ∈ server.pool.connectionTxs
  log : server.observability.log.Alive
  stats : server.observability.stats.Alive
  running : server.observability.aggregator ≠ .exited

theorem Ready.sender (ready : server.Ready) {lane : Lane Stream}
    (found : server.pool.lanes[worker]? = some lane) : lane.queue.senders ≠ 0 := by
  have inside := (List.getElem?_eq_some_iff.mp found).1
  rw [(ready.wired found).senders]
  exact (List.count_pos_iff.mpr (ready.senders worker inside)).ne'

/-! ## What a step uses up -/

/-- A worker takes a step in its loop, and its next call is so long. -/
theorem loaded_of_works {pool : ThreadPool Stream} {task : Option Task} (ready : server.Ready)
    (loaded : Loaded length server supply) (works : ThreadPool.Works server.pool worker pool)
    (granted : ∀ lane : Lane Stream, server.pool.lanes[worker]? = some lane →
      task.elim (ThreadPool.granted length lane.worker = 0)
        (Task.Within (ThreadPool.granted length lane.worker))) :
    ∃ rest < supply, Loaded length ({ server with pool }.setTask worker task) rest := by
  obtain ⟨left, bounded, rfl⟩ := loaded
  obtain ⟨lane, found, less⟩ := @ThreadPool.remaining_of_works _ server.pool pool worker length left
    works fun lane found => ready.sender found
  refine ⟨_, Nat.add_lt_add_right less server.observability.remaining, ?_⟩
  exact ⟨_, bounded.update worker (granted lane found), rfl⟩

/-- A worker goes on with its call. -/
theorem loaded_of_goOn {task rest : Task} {observability : Observability} {backends : BackendSet}
    (ready : server.Ready) (loaded : Loaded length server supply)
    (found : server.tasks worker = some task)
    (goesOn : ∀ steps, task.Within steps → ∃ fewer, steps = fewer + 1 ∧ rest.Within fewer)
    (sent : observability.remaining ≤ server.observability.remaining + 6) :
    ∃ less < supply,
      Loaded length ({ server with observability, backends }.setTask worker (some rest)) less := by
  obtain ⟨left, bounded, rfl⟩ := loaded
  have here := bounded worker
  rw [found] at here
  obtain ⟨fewer, same, within⟩ := goesOn (left worker) here
  obtain ⟨req, handling⟩ := ready.attended.inCall found
  obtain ⟨lane, atLane, _⟩ := Option.map_eq_some_iff.mp handling
  have used := @ThreadPool.remaining_goOn _ server.pool worker length left lane atLane fewer
  refine ⟨_, ?_, _, bounded.update worker within, rfl⟩
  change server.pool.remaining length (Function.update left worker fewer) +
    observability.remaining < server.pool.remaining length left + server.observability.remaining
  omega

theorem remaining_apply (alive : server.observability.log.Alive) (effect : Effect) :
    (server.apply effect).observability.remaining ≤ server.observability.remaining + 6 := by
  cases effect with
  | emitLog record =>
      exact (Observability.remaining_emitLog alive record).trans (Nat.add_le_add_left (by decide) _)
  | recordMetrics stats => exact Observability.remaining_recordMetrics server.observability stats
  | _ => exact Nat.le_add_right _ 6

theorem loaded_of_work (ready : server.Ready) (loaded : Loaded length server supply)
    (taken : server.work worker = some (next, output)) :
    ∃ rest < supply, Loaded length next rest := by
  unfold work at taken
  split at taken
  case h_1 task found =>
      cases task with
      | done result =>
          obtain ⟨pool, worked, same⟩ := Option.map_eq_some_iff.mp taken
          cases same
          apply loaded_of_works ready loaded (ThreadPool.works_of_work worked)
          intro lane atLane
          obtain ⟨req, handling⟩ := ready.attended.inCall found
          rw [ThreadPool.workerStep_of_found atLane] at handling
          rw [Option.some.inj handling]
          rfl
      | perform effect rest =>
          cases taken
          rw [apply_eq]
          apply @loaded_of_goOn _ server length worker supply _ rest _ server.backends ready loaded
            found
          · intro steps within
            cases within with
            | perform _ within => exact ⟨_, rfl, within⟩
          · exact remaining_apply ready.log effect
      | select rest =>
          cases taken
          apply @loaded_of_goOn _ server length worker supply _ _ server.observability _ ready loaded
            found
          · intro steps within
            cases within with
            | select within => exact ⟨_, rfl, within _⟩
          · exact Nat.le_add_right _ 6
  case h_2 idle =>
      split at taken
      · cases taken
      case isFalse looping =>
          obtain ⟨pool, worked, same⟩ := Option.map_eq_some_iff.mp taken
          cases same
          have sameTasks : Function.update server.tasks worker none = server.tasks := by
            rw [← idle, Function.update_eq_self]
          have loop := @loaded_of_works _ server length worker supply pool none ready loaded
            (ThreadPool.works_of_work worked)
          rw [setTask, sameTasks] at loop
          apply loop
          intro lane atLane
          rw [calls_eq_true_iff, ThreadPool.workerStep_of_found atLane] at looping
          cases step : lane.worker with
          | numbering stream => exact absurd ⟨stream, congrArg some step⟩ looping
          | _ => rfl

theorem loaded_of_submit (ready : server.Ready) (loaded : Loaded length server supply)
    (taken : server.submit = some (next, output)) :
    ∃ rest < supply, Loaded length next rest := by
  obtain ⟨left, bounded, rfl⟩ := loaded
  unfold submit at taken
  split at taken
  case h_1 => cases taken
  case h_2 pool advanced =>
      have used := @ThreadPool.remaining_of_advance _ server.pool pool length left advanced
      split at taken
      · cases taken
        refine ⟨_, ?_, left, bounded, rfl⟩
        dsimp only
        omega
      case h_2 stream error _ _ =>
          have sent : (reject { server with pool } stream error).1.observability.remaining ≤
              server.observability.remaining + 1 := by
            cases error with
            | poolFull =>
                let observability := server.observability
                let counted :=
                  { observability with metrics := observability.metrics.recordPoolRejected }
                exact @Observability.remaining_emitLog counted ready.log poolSaturated
            | shutdownInProgress => exact Nat.le_succ _
            | _ => exact Observability.remaining_emitLog ready.log _
          have same : (reject { server with pool } stream error).1.pool = pool ∧
              (reject { server with pool } stream error).1.tasks = server.tasks := by
            cases error <;> exact ⟨rfl, rfl⟩
          have given : (reject { server with pool } stream error).1 = next :=
            congrArg Prod.fst (Option.some.inj taken)
          rw [given] at sent same
          refine ⟨_, ?_, left, same.2.symm ▸ bounded, rfl⟩
          rw [same.1]
          omega

theorem loaded_logAccept (ready : server.Ready) (loaded : Loaded length server supply)
    (entry : LogEntry) :
    ∃ rest ≤ supply + 1, Loaded length (server.logAccept entry).1 rest := by
  obtain ⟨left, bounded, rfl⟩ := loaded
  have sent := Observability.remaining_emitLog ready.log entry.record
  exact ⟨_, Nat.add_le_add_left sent _, left, bounded, rfl⟩

theorem loaded_of_accept [DecidableEq Stream] {stream : Stream}
    {setReadTimeout : Duration → Except IoError Unit} (ready : server.Ready)
    (loaded : Loaded length server supply)
    (taken : server.accept stream setReadTimeout = some (next, output)) :
    ∃ rest ≤ supply + (8 * length + 10), Loaded length next rest := by
  unfold accept at taken
  split at taken
  · cases taken
  case isFalse free =>
      split at taken
      case h_1 error failed =>
          obtain ⟨rest, atMost, logged⟩ :=
            loaded_logAccept ready loaded (.acceptReadTimeoutSetFailed error)
          have same : (server.logAccept (.acceptReadTimeoutSetFailed error)).1 = next :=
            congrArg Prod.fst (Option.some.inj taken)
          rw [same] at logged
          exact ⟨rest, by omega, logged⟩
      case h_2 =>
          split at taken
          · cases taken
            exact ⟨supply, Nat.le_add_right _ _, loaded⟩
          · obtain ⟨pool, entered, same⟩ := Option.map_eq_some_iff.mp taken
            cases same
            obtain ⟨left, bounded, rfl⟩ := loaded
            refine ⟨_, ?_, left, bounded, rfl⟩
            have more := @ThreadPool.remaining_of_enterSubmit _ server.pool pool length left _ _
              entered
            dsimp only
            omega

theorem loaded_watch (loaded : Loaded length server supply) (connects : Duration → Bool) :
    ∃ rest ≤ supply + 1, Loaded length (server.watch connects).1 rest := by
  unfold watch
  split
  · exact ⟨supply, Nat.le_succ supply, loaded⟩
  · exact ⟨supply, Nat.le_succ supply, loaded⟩
  case h_3 addr addrs scanning =>
      obtain ⟨left, bounded, rfl⟩ := loaded
      have sent := Observability.remaining_probed server.observability server.health
        server.backends { addr, ok := connects server.health.connectTimeout }
      exact ⟨_, Nat.add_le_add_left sent _, left, bounded, rfl⟩
  · split
    · exact ⟨supply, Nat.le_succ supply, loaded⟩
    · exact ⟨supply, Nat.le_succ supply, loaded⟩

section

variable {σ τ : Type} [DecidableEq Stream] [Read σ] [Read τ]
  {snapshotRecord : Metrics → LogRecord} {event : Event Stream σ τ}

/-- The threads use up what the connections, the errors of the accept loop and the
probes bring. -/
theorem loaded_of_step (ready : server.Ready)
    (loaded : Loaded server.context.callSteps server supply)
    (taken : server.step snapshotRecord event = some (next, output)) :
    ∃ rest, Loaded server.context.callSteps next rest ∧
      if event.internal = true then rest < supply
      else rest ≤ supply + (8 * server.context.callSteps + 10) := by
  have uses : (∃ rest < supply, Loaded server.context.callSteps next rest) →
      event.internal = true →
      ∃ rest, Loaded server.context.callSteps next rest ∧
        if event.internal = true then rest < supply
        else rest ≤ supply + (8 * server.context.callSteps + 10) := by
    rintro ⟨rest, less, left⟩ internal
    exact ⟨rest, left, by rwa [if_pos internal]⟩
  have brings : (∃ rest ≤ supply + (8 * server.context.callSteps + 10),
      Loaded server.context.callSteps next rest) → event.internal = false →
      ∃ rest, Loaded server.context.callSteps next rest ∧
        if event.internal = true then rest < supply
        else rest ≤ supply + (8 * server.context.callSteps + 10) := by
    rintro ⟨rest, more, left⟩ external
    exact ⟨rest, left, by rwa [external, if_neg Bool.false_ne_true]⟩
  have little : (∃ rest ≤ supply + 1, Loaded server.context.callSteps next rest) →
      ∃ rest ≤ supply + (8 * server.context.callSteps + 10),
        Loaded server.context.callSteps next rest := by
    rintro ⟨rest, more, left⟩
    exact ⟨rest, by omega, left⟩
  cases event with
  | accept stream setReadTimeout => exact brings (loaded_of_accept ready loaded taken) rfl
  | acceptError error =>
      simp only [step] at taken
      split at taken
      · have logged := loaded_logAccept ready loaded (.acceptError error server.config.listen)
        have same : (server.logAccept (.acceptError error server.config.listen)).1 = next :=
          congrArg Prod.fst (Option.some.inj taken)
        rw [same] at logged
        exact brings (little logged) rfl
      · cases taken
  | submit => exact uses (loaded_of_submit ready loaded taken) rfl
  | work worker => exact uses (loaded_of_work ready loaded taken) rfl
  | call worker meets =>
      simp only [step] at taken
      unfold call at taken
      split at taken
      case isTrue calling =>
          obtain ⟨pool, worked, same⟩ := Option.map_eq_some_iff.mp taken
          cases same
          refine uses (loaded_of_works ready loaded (ThreadPool.works_of_work worked) ?_) rfl
          intro lane found
          obtain ⟨stream, numbering⟩ := calls_eq_true_iff.mp calling
          rw [ThreadPool.workerStep_of_found found] at numbering
          rw [Option.some.inj numbering]
          exact within_handleTask meets
      case isFalse => cases taken
  | aggregate elapsed =>
      obtain ⟨observability, aggregated, same⟩ := Option.map_eq_some_iff.mp taken
      cases same
      obtain ⟨left, bounded, rfl⟩ := loaded
      have less := Observability.remaining_aggregate ready.stats.senders aggregated
      exact uses ⟨_, Nat.add_lt_add_left less _, left, bounded, rfl⟩ rfl
  | write =>
      obtain ⟨observability, written, same⟩ := Option.map_eq_some_iff.mp taken
      cases same
      obtain ⟨left, bounded, rfl⟩ := loaded
      have less := Observability.remaining_write ready.log.senders written
      exact uses ⟨_, Nat.add_lt_add_left less _, left, bounded, rfl⟩ rfl
  | monitor connects =>
      have watched : (server.watch connects).1 = next :=
        congrArg Prod.fst (Option.some.inj taken)
      have probed := loaded_watch loaded connects
      rw [watched] at probed
      exact brings (little probed) rfl

end

/-! ## Where nothing is left -/

/-- All connections are done with, and both channels are empty. -/
structure Drained (server : Server Stream) : Prop where
  pool : server.pool.Idle
  tasks : ∀ worker, server.tasks worker = none
  settled : ∀ stream ∈ server.pool.submitted,
    stream ∈ server.pool.contents .handled ∨ stream ∈ server.pool.contents .returned
  log : server.observability.log.queue = []
  stats : server.observability.stats.queue = []
  aggregator : server.observability.aggregator = .receiving

section

variable {σ τ : Type} [DecidableEq Stream] [Read σ] [Read τ]
  {snapshotRecord : Metrics → LogRecord}

omit [DecidableEq Stream] in
/-- A worker in a call can always go on with it. -/
theorem task_of_rest (ready : server.Ready) (stuck : server.work worker = none) :
    server.tasks worker = none := by
  cases found : server.tasks worker with
  | none => rfl
  | some task =>
      unfold work at stuck
      rw [found] at stuck
      cases task with
      | done result =>
          obtain ⟨req, handling⟩ := ready.attended.inCall found
          obtain ⟨lane, atLane, step⟩ := Option.map_eq_some_iff.mp handling
          have worked : server.pool.work worker ≠ none := by
            simp [ThreadPool.work, atLane, step]
          exact absurd (Option.map_eq_none_iff.mp stuck) worked
      | perform effect rest => cases stuck
      | select rest => cases stuck

/-- If no thread can go on, nothing is left to do. -/
theorem drained_of_rest [Nonempty (Meets σ τ)] {workers : Nat} {earlier : List Stream}
    (ready : server.Ready) (inTurn : server.pool.InTurn workers earlier)
    (rest : (machine snapshotRecord : Transducer _ (Event Stream σ τ) _).AtRest Event.internal
      server) : server.Drained := by
  have noWork : ∀ worker, server.work worker = none := fun worker => rest (.work worker) rfl
  have tasks : ∀ worker, server.tasks worker = none := fun worker =>
    task_of_rest ready (noWork worker)
  have stuck : ∀ worker, server.pool.work worker = none := by
    intro worker
    cases calling : calls server.pool worker with
    | true =>
        have noCall := rest (.call worker (Classical.arbitrary (Meets σ τ))) rfl
        change server.call worker _ = none at noCall
        rw [call, if_pos calling] at noCall
        exact Option.map_eq_none_iff.mp noCall
    | false =>
        have noStep := noWork worker
        rw [work, tasks worker] at noStep
        simp only [calling, Bool.false_eq_true, if_false] at noStep
        exact Option.map_eq_none_iff.mp noStep
  have waits : ∀ (worker : Nat) (lane : Lane Stream), server.pool.lanes[worker]? = some lane →
      lane.worker = .receiving ∧ lane.queue.queue = [] := by
    intro worker lane found
    have inside := (List.getElem?_eq_some_iff.mp found).1
    exact ThreadPool.receiving_of_stuck ready.wired (ready.senders worker inside) found
      (stuck worker)
  have noCalls : server.pool.calls = [] := by
    cases calls : server.pool.calls with
    | nil => rfl
    | cons call others =>
        have first : server.pool.calls[0]? = some call := by rw [calls, List.getElem?_cons_zero]
        obtain ⟨pool, advanced⟩ := ThreadPool.advance_enabled ready.dispatching first
        have noSubmit := rest .submit rfl
        change server.submit = none at noSubmit
        unfold submit at noSubmit
        rw [advanced] at noSubmit
        dsimp only at noSubmit
        split at noSubmit <;> cases noSubmit
  have idle : server.pool.Idle :=
    ⟨noCalls, fun worker lane found => (waits worker lane found).1,
      fun worker lane found => (waits worker lane found).2⟩
  have noAggregate := Option.map_eq_none_iff.mp (rest (.aggregate false) rfl)
  obtain ⟨receiving, empty⟩ := Observability.receiving_of_stuck ready.running noAggregate
  refine ⟨idle, tasks, fun stream => inTurn.settled idle, ?_, empty, receiving⟩
  cases queue : server.observability.log.queue with
  | nil => rfl
  | cons record records =>
      obtain ⟨written, wrote, _⟩ := Observability.exists_write queue
      have noWrite := Option.map_eq_none_iff.mp (rest .write rfl)
      rw [wrote] at noWrite
      cases noWrite

variable {config : BalancerConfig} {openLog : String → MzaniResult Unit}
  {events : List (Event Stream σ τ)} {outputs : List (Output Stream)}

theorem ready_of_run (built : build config openLog = .ok server)
    (ran : (machine snapshotRecord).run server events = some (next, outputs)) : next.Ready := by
  have started := started_of_build built
  have plumbed := (threads_of_run built ran).1.invariant.1
  obtain ⟨earlier, inTurn⟩ := inTurn_of_run built ran
  obtain ⟨actions, ranPool⟩ := (evolves_of_run ran).pool
  obtain ⟨positive, spawned⟩ := started.pool
  rw [spawned] at ranPool
  have staffed := ThreadPool.staffed_of_run ranPool
  obtain ⟨refused, logs⟩ := logs_of_run started.log.alive ran
  obtain ⟨added, further, meters⟩ := meters_of_run started.stats.alive ran
  obtain ⟨received, carries, _⟩ := meters.stats
  have stats := carries.alive started.stats.alive
  constructor
  · exact (attended_of_started started).run ran
  · exact plumbed.wired
  · exact plumbed.dispatching
  · intro worker inside
    rw [staffed.lanes] at inside
    rw [inTurn.senders]
    exact List.mem_range.mpr inside
  · exact logs.log.alive started.log.alive
  · exact stats
  · intro exited
    have closed := plumbed.metricsReader (congrArg Aggregating.toStep exited)
    exact stats.senders closed.noSender

omit [DecidableEq Stream] in
theorem loaded_of_build (built : build config openLog = .ok server) :
    Loaded server.context.callSteps server 1 := by
  have started := started_of_build built
  obtain ⟨positive, spawned⟩ := started.pool
  refine ⟨fun _ => 0, ?_, ?_⟩
  · intro worker
    rw [started.tasks]
    rfl
  · have idle : server.pool.remaining server.context.callSteps (fun _ => 0) = 0 := by
      rw [spawned, ThreadPool.remaining_spawn]
    rw [idle, Observability.remaining, started.log.queue, started.stats.queue, started.aggregator]
    rfl

/-- In every run the threads take at most so many steps for each connection, error
of the accept loop and probe.  From every state that is reached they come to rest
without further ones, and where none of them can go on all connections are done
with. -/
theorem rests_of_run [Nonempty (Meets σ τ)] (built : build config openLog = .ok server)
    (ran : (machine snapshotRecord).run server events = some (next, outputs)) :
    events.countP Event.internal ≤
        1 + (8 * server.context.callSteps + 10) * events.countP (fun event => !event.internal) ∧
      ((machine snapshotRecord : Transducer _ (Event Stream σ τ) _).AtRest Event.internal next →
        next.Drained) ∧
      ∃ (more : List (Event Stream σ τ)) (last : Server Stream) (shown : List (Output Stream)),
        (∀ event ∈ more, event.internal = true) ∧
          (machine snapshotRecord).run next more = some (last, shown) ∧ last.Drained := by
  let reached : Server Stream → Nat → Prop := fun state supply =>
    (∃ (events : List (Event Stream σ τ)) (outputs : List (Output Stream)),
      (machine snapshotRecord).run server events = some (state, outputs)) ∧
      Loaded server.context.callSteps state supply
  have spends : (machine snapshotRecord : Transducer _ (Event Stream σ τ) _).Spends Event.internal
      (8 * server.context.callSteps + 10) reached := by
    rintro state supply event after output ⟨⟨earlier, shown, ranTo⟩, loaded⟩ taken
    have same : state.context = server.context := (evolves_of_run ranTo).context
    rw [← same] at loaded ⊢
    obtain ⟨rest, left, spent⟩ := loaded_of_step (ready_of_run built ranTo) loaded taken
    rw [same] at left
    exact ⟨rest, ⟨⟨_, _, Transducer.run_concat ranTo taken⟩, left⟩, spent⟩
  have drained : ∀ {events : List (Event Stream σ τ)} {state : Server Stream}
      {outputs : List (Output Stream)},
      (machine snapshotRecord).run server events = some (state, outputs) →
      (machine snapshotRecord : Transducer _ (Event Stream σ τ) _).AtRest Event.internal state →
      state.Drained := by
    intro events state outputs ranTo rest
    obtain ⟨earlier, inTurn⟩ := inTurn_of_run built ranTo
    exact drained_of_rest (ready_of_run built ranTo) inTurn rest
  have initial : reached server 1 := ⟨⟨[], [], Transducer.run_nil⟩, loaded_of_build built⟩
  refine ⟨spends.countP_le initial ran, drained ran, ?_⟩
  obtain ⟨supply, here⟩ := spends.run initial ran
  obtain ⟨more, last, shown, internal, went, rest⟩ := spends.exists_rest here
  exact ⟨more, last, shown, internal, went, drained (Transducer.run_append ran went) rest⟩

end

/-- Of four connections that two workers have not yet handled one is given back. -/
theorem rests_of_run_fourArrivals :
    ∃ (server next : Server Nat) (outputs : List (Output Nat)),
      (machine fun _ => poolSaturated).run server fourArrivals = some (next, outputs) ∧
        next.pool.contents .handled = [] ∧ next.pool.contents .returned = [4] ∧
        ∃ (more : List (Event Nat Source Source)) (last : Server Nat) (shown : List (Output Nat)),
          (∀ event ∈ more, event.internal = true) ∧
            (machine fun _ => poolSaturated).run next more = some (last, shown) ∧
              last.Drained := by
  obtain ⟨server, built⟩ : ∃ server : Server Nat, build twoLanes (fun _ => .ok ()) = .ok server :=
    ⟨_, rfl⟩
  have shows : ((build twoLanes fun _ => .ok () : MzaniResult (Server Nat)).toOption.bind
      fun server => (machine fun _ => poolSaturated).run server fourArrivals).map
        (fun (next, _) => (next.pool.contents .handled, next.pool.contents .returned)) =
      some ([], [4]) := by
    decide +kernel
  obtain ⟨⟨next, outputs⟩, ran, contents⟩ := Option.map_eq_some_iff.mp shows
  rw [built] at ran
  obtain ⟨handled, returned⟩ := Prod.mk.inj contents
  have someCall : Nonempty (Meets Source Source) := ⟨unreachable⟩
  obtain ⟨_, _, rests⟩ := rests_of_run built ran
  exact ⟨server, next, outputs, ran, handled, returned, rests⟩

end Server

end Mzani
