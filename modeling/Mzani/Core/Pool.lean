import Mzani.Config
import Mzani.Support.Channel
import Mzani.Support.Custody
import Mzani.Support.Machine

/-!
# The worker pool

The connection side of `ThreadPool` as a state machine.  A step of a thread is
one access to shared memory or to a channel, with the local code that follows
it; any number of threads may be inside `submit`.
-/

namespace Mzani

open Support

/-- `RequestContext` -/
structure RequestContext where
  reqId : U64
  workerId : Nat
  deriving DecidableEq

/-- What `write_service_unavailable` writes. -/
def serviceUnavailable (message : String) : Bytes :=
  let body := "service unavailable: " ++ message
  toUtf8 ("HTTP/1.1 503 Service Unavailable\r\nContent-Length: " ++
    toString body.utf8ByteSize ++ "\r\nConnection: close\r\n\r\n" ++ body).toList

/-- How far a call of `submit` is: before the flag is read, before the check
for senders, and before `try_send` to the chosen worker. -/
inductive SubmitStep where
  | entered
  | accepted
  | dispatched (index : Nat)
  deriving DecidableEq

structure SubmitCall (Stream : Type) where
  stream : Stream
  step : SubmitStep

/-- How far `connection_worker_loop` is: in `recv`, before the flag is read,
before the answer to a refused stream, before the stream gets its number, in
`handle_connection`, and after the loop. -/
inductive WorkerStep (Stream : Type) where
  | receiving
  | received (stream : Stream)
  | refusing (stream : Stream)
  | numbering (stream : Stream)
  | handling (req : RequestContext)
  | exited

/-- The stream that the worker is moving. -/
def WorkerStep.moving {Stream : Type} : WorkerStep Stream → List Stream
  | .receiving => []
  | .received stream => [stream]
  | .refusing stream => [stream]
  | .numbering stream => [stream]
  | .handling _ => []
  | .exited => []

/-- A connection worker and its queue. -/
structure Lane (Stream : Type) where
  queue : Channel Stream
  worker : WorkerStep Stream

/-- `ThreadPool` and its threads.  `stopping` is set while `stop_accepting`
borrows the pool.  The last fields are the history: the streams given to
`submit`, those returned with their error, those passed to `handle_connection`,
those answered by a worker with the answer, and those that a worker received
after the flag was set. -/
structure ThreadPool (Stream : Type) where
  connectionTxs : List Nat
  dispatchIndex : Usize
  shuttingDown : Bool
  nextReqId : U64
  stopping : Bool
  lanes : List (Lane Stream)
  calls : List (SubmitCall Stream)
  submitted : List Stream
  returned : List (Stream × MzaniError)
  handled : List (Stream × RequestContext)
  refused : List (Stream × Bytes)
  late : List Stream

inductive PoolAction (Stream : Type) where
  | submit (stream : Stream)
  | advance (call : Nat)
  | work (worker : Nat)
  | setShuttingDown
  | stopAccepting
  | dropSender
  | stopped
  deriving DecidableEq

namespace ThreadPool

variable {Stream : Type}

/-- The pool right after its threads are spawned. -/
def spawn (config : PoolConfig) (positive : 0 < config.perWorkerQueue.val)
    (shuttingDown : Bool) : ThreadPool Stream where
  connectionTxs := List.range config.workers.val
  dispatchIndex := 0
  shuttingDown := shuttingDown
  nextReqId := 1
  stopping := false
  lanes := List.replicate config.workers.val
    { queue := Channel.sync config.perWorkerQueue.val positive, worker := .receiving }
  calls := []
  submitted := []
  returned := []
  handled := []
  refused := []
  late := []

/-- `logger` is the outcome of opening the log file. -/
def new (config : PoolConfig) (shuttingDown : Bool) (logger : MzaniResult Unit) :
    MzaniResult (ThreadPool Stream) :=
  match valid : config.validate with
  | .error error => .error error
  | .ok () =>
      match logger with
      | .error error => .error error
      | .ok () =>
          .ok (spawn config (Nat.pos_of_ne_zero fun zero =>
            ((PoolConfig.validate_eq_ok_iff config).mp valid).2.1 (Fin.ext zero))
            shuttingDown)

theorem new_ok {config : PoolConfig} {shuttingDown : Bool} {logger : MzaniResult Unit}
    {pool : ThreadPool Stream} (built : new config shuttingDown logger = .ok pool) :
    ∃ positive, pool = spawn config positive shuttingDown := by
  unfold new at built
  split at built
  · cases built
  · split at built
    · cases built
    · cases built
      exact ⟨_, rfl⟩

/-- The worker that the next `submit` chooses. -/
def dispatchWorkerIndex (dispatchIndex : Usize) (workerCount : Nat) : Nat :=
  dispatchIndex.val % workerCount

def setLane (pool : ThreadPool Stream) (worker : Nat) (lane : Lane Stream) :
    ThreadPool Stream :=
  { pool with lanes := pool.lanes.set worker lane }

/-- A call of `submit` goes on. -/
def setCall (pool : ThreadPool Stream) (number : Nat) (call : SubmitCall Stream) :
    ThreadPool Stream :=
  { pool with calls := pool.calls.set number call }

/-- A call of `submit` returns. -/
def endCall (pool : ThreadPool Stream) (number : Nat) : ThreadPool Stream :=
  { pool with calls := pool.calls.eraseIdx number }

/-- A call of `submit` returns the stream inside `Err`. -/
def giveBack (pool : ThreadPool Stream) (number : Nat) (stream : Stream)
    (error : MzaniError) : ThreadPool Stream :=
  { pool.endCall number with returned := pool.returned ++ [(stream, error)] }

/-- A caller enters `submit` with a stream that it owns: a new one, or one that
an earlier call has returned. -/
def enterSubmit [DecidableEq Stream] (pool : ThreadPool Stream) (stream : Stream) :
    Option (ThreadPool Stream) :=
  let call : SubmitCall Stream := { stream, step := .entered }
  if pool.stopping = true then none
  else if stream ∈ pool.submitted then
    if stream ∈ pool.returned.map Prod.fst then
      some
        { pool with
          calls := pool.calls ++ [call]
          returned := pool.returned.eraseP fun entry => entry.1 = stream }
    else none
  else
    some
      { pool with
        calls := pool.calls ++ [call]
        submitted := pool.submitted ++ [stream] }

/-- The next step of a call of `submit`.  There is none where the source would
panic on an index. -/
def advance (pool : ThreadPool Stream) (number : Nat) : Option (ThreadPool Stream) :=
  match pool.calls[number]? with
  | none => none
  | some call =>
      match call.step with
      | .entered =>
          if pool.shuttingDown = true then
            some (pool.giveBack number call.stream .shutdownInProgress)
          else some (pool.setCall number { call with step := .accepted })
      | .accepted =>
          if pool.connectionTxs = [] then
            some (pool.giveBack number call.stream .poolFull)
          else
            let index := dispatchWorkerIndex pool.dispatchIndex pool.connectionTxs.length
            some
              { pool.setCall number { call with step := .dispatched index } with
                dispatchIndex := pool.dispatchIndex + 1 }
      | .dispatched index =>
          match pool.connectionTxs[index]? with
          | none => none
          | some worker =>
              match pool.lanes[worker]? with
              | none => none
              | some lane =>
                  match lane.queue.trySend call.stream with
                  | .sent queue =>
                      some ((pool.endCall number).setLane worker { lane with queue })
                  | .full => some (pool.giveBack number call.stream .poolFull)
                  | .disconnected =>
                      some (pool.giveBack number call.stream .shutdownInProgress)

/-- The next step of a connection worker. -/
def work (pool : ThreadPool Stream) (worker : Nat) : Option (ThreadPool Stream) :=
  match pool.lanes[worker]? with
  | none => none
  | some lane =>
      match lane.worker with
      | .receiving =>
          match lane.queue.recv with
          | .item stream queue =>
              some
                { pool.setLane worker { queue, worker := .received stream } with
                  late := if pool.shuttingDown = true then pool.late ++ [stream]
                    else pool.late }
          | .disconnected =>
              some (pool.setLane worker
                { queue := lane.queue.dropReceiver, worker := .exited })
          | .blocked => none
      | .received stream =>
          if pool.shuttingDown = true then
            some (pool.setLane worker { lane with worker := .refusing stream })
          else some (pool.setLane worker { lane with worker := .numbering stream })
      | .refusing stream =>
          some
            { pool.setLane worker { lane with worker := .receiving } with
              refused := pool.refused ++ [(stream, serviceUnavailable "shutting down")] }
      | .numbering stream =>
          let req : RequestContext := { reqId := pool.nextReqId, workerId := worker }
          some
            { pool.setLane worker { lane with worker := .handling req } with
              nextReqId := pool.nextReqId + 1
              handled := pool.handled ++ [(stream, req)] }
      | .handling _ => some (pool.setLane worker { lane with worker := .receiving })
      | .exited => none

/-- `stop_accepting` needs the pool for itself: no call of `submit` is on. -/
def beginStop (pool : ThreadPool Stream) : Option (ThreadPool Stream) :=
  if pool.stopping = false ∧ pool.calls.length = 0 then
    some { pool with shuttingDown := true, stopping := true }
  else none

/-- `connection_txs.clear()` drops the next sender. -/
def dropSender (pool : ThreadPool Stream) : Option (ThreadPool Stream) :=
  if pool.stopping = true then
    match pool.connectionTxs with
    | [] => none
    | worker :: rest =>
        match pool.lanes[worker]? with
        | none => none
        | some lane =>
            some
              { pool.setLane worker { lane with queue := lane.queue.dropSender } with
                connectionTxs := rest }
  else none

/-- `stop_accepting` returns. -/
def endStop (pool : ThreadPool Stream) : Option (ThreadPool Stream) :=
  if pool.stopping = true ∧ pool.connectionTxs = [] then
    some { pool with stopping := false }
  else none

def step [DecidableEq Stream] (pool : ThreadPool Stream) :
    PoolAction Stream → Option (ThreadPool Stream)
  | .submit stream => pool.enterSubmit stream
  | .advance call => pool.advance call
  | .work worker => pool.work worker
  | .setShuttingDown => some { pool with shuttingDown := true }
  | .stopAccepting => pool.beginStop
  | .dropSender => pool.dropSender
  | .stopped => pool.endStop

def machine [DecidableEq Stream] : Machine (ThreadPool Stream) (PoolAction Stream) where
  step := step

variable {pool next : ThreadPool Stream}

/-! ## What a step does -/

/-- What a step of a call of `submit` can do. -/
inductive Advances (pool : ThreadPool Stream) (number : Nat) : ThreadPool Stream → Prop where
  | giveBack {call : SubmitCall Stream} {error : MzaniError} :
      pool.calls[number]? = some call →
      error = .shutdownInProgress ∨ error = .poolFull →
      Advances pool number (pool.giveBack number call.stream error)
  | goOn {call : SubmitCall Stream} {step : SubmitStep} {dispatchIndex : Usize} :
      pool.calls[number]? = some call →
      (∀ index, step = .dispatched index → index < pool.connectionTxs.length) →
      Advances pool number
        { pool.setCall number { call with step } with dispatchIndex }
  | send {call : SubmitCall Stream} {worker : Nat} {lane : Lane Stream}
      {queue : Channel Stream} :
      pool.calls[number]? = some call →
      worker ∈ pool.connectionTxs →
      pool.lanes[worker]? = some lane →
      lane.queue.Sent call.stream queue →
      Advances pool number ((pool.endCall number).setLane worker { lane with queue })

theorem advances_of_advance {number : Nat} (taken : pool.advance number = some next) :
    Advances pool number next := by
  unfold advance at taken
  split at taken
  · cases taken
  case h_2 call found =>
      split at taken
      · split at taken
        · cases taken
          exact .giveBack found (.inl rfl)
        · cases taken
          exact .goOn found (by simp)
      · split at taken
        · cases taken
          exact .giveBack found (.inr rfl)
        case isFalse nonempty =>
            cases taken
            refine .goOn found fun index dispatched => ?_
            cases dispatched
            exact Nat.mod_lt _ (List.length_pos_iff.mpr nonempty)
      case h_3 index _ =>
          split at taken
          · cases taken
          case h_2 worker chosen =>
              split at taken
              · cases taken
              case h_2 lane atLane =>
                  split at taken
                  case h_1 queue answer =>
                      cases taken
                      exact .send found (List.mem_of_getElem? chosen) atLane
                        (Channel.sent_of_trySend answer)
                  · cases taken
                    exact .giveBack found (.inr rfl)
                  · cases taken
                    exact .giveBack found (.inl rfl)

/-- What a step of a worker can do. -/
inductive Works (pool : ThreadPool Stream) (worker : Nat) : ThreadPool Stream → Prop where
  | receive {lane : Lane Stream} {stream : Stream} {queue : Channel Stream} :
      pool.lanes[worker]? = some lane → lane.worker = .receiving →
      lane.queue.Received stream queue →
      Works pool worker
        { pool.setLane worker { queue, worker := .received stream } with
          late := if pool.shuttingDown = true then pool.late ++ [stream] else pool.late }
  | exit {lane : Lane Stream} :
      pool.lanes[worker]? = some lane → lane.worker = .receiving →
      lane.queue.queue = [] → lane.queue.senders = 0 →
      Works pool worker
        (pool.setLane worker { queue := lane.queue.dropReceiver, worker := .exited })
  | refuse {lane : Lane Stream} {stream : Stream} :
      pool.lanes[worker]? = some lane → lane.worker = .received stream →
      pool.shuttingDown = true →
      Works pool worker (pool.setLane worker { lane with worker := .refusing stream })
  | accept {lane : Lane Stream} {stream : Stream} :
      pool.lanes[worker]? = some lane → lane.worker = .received stream →
      pool.shuttingDown = false →
      Works pool worker (pool.setLane worker { lane with worker := .numbering stream })
  | answer {lane : Lane Stream} {stream : Stream} :
      pool.lanes[worker]? = some lane → lane.worker = .refusing stream →
      Works pool worker
        { pool.setLane worker { lane with worker := .receiving } with
          refused := pool.refused ++ [(stream, serviceUnavailable "shutting down")] }
  | handle {lane : Lane Stream} {stream : Stream} :
      pool.lanes[worker]? = some lane → lane.worker = .numbering stream →
      Works pool worker
        { pool.setLane worker
            { lane with worker := .handling ⟨pool.nextReqId, worker⟩ } with
          nextReqId := pool.nextReqId + 1
          handled := pool.handled ++ [(stream, ⟨pool.nextReqId, worker⟩)] }
  | finish {lane : Lane Stream} {req : RequestContext} :
      pool.lanes[worker]? = some lane → lane.worker = .handling req →
      Works pool worker (pool.setLane worker { lane with worker := .receiving })

theorem works_of_work {worker : Nat} (taken : pool.work worker = some next) :
    Works pool worker next := by
  unfold work at taken
  split at taken
  · cases taken
  case h_2 lane found =>
      split at taken
      case h_1 waiting =>
          split at taken
          case h_1 stream queue answer =>
              cases taken
              exact .receive found waiting (Channel.received_of_recv answer)
          case h_2 answer =>
              cases taken
              obtain ⟨empty, gone⟩ := Channel.recv_eq_disconnected_iff.mp answer
              exact .exit found waiting empty gone
          case h_3 => cases taken
      case h_2 stream holds =>
          split at taken
          case isTrue flag =>
              cases taken
              exact .refuse found holds flag
          case isFalse flag =>
              cases taken
              exact .accept found holds (Bool.eq_false_iff.mpr flag)
      case h_3 stream holds =>
          cases taken
          exact .answer found holds
      case h_4 stream holds =>
          cases taken
          exact .handle found holds
      case h_5 req holds =>
          cases taken
          exact .finish found holds
      case h_6 => cases taken

/-- What `connection_txs.clear()` does when it drops a sender. -/
structure DropsSender (pool next : ThreadPool Stream) (worker : Nat) (lane : Lane Stream)
    (rest : List Nat) : Prop where
  stopping : pool.stopping = true
  senders : pool.connectionTxs = worker :: rest
  found : pool.lanes[worker]? = some lane
  result : next = { pool.setLane worker { lane with queue := lane.queue.dropSender } with
    connectionTxs := rest }

theorem dropsSender_of_dropSender (taken : pool.dropSender = some next) :
    ∃ worker lane rest, DropsSender pool next worker lane rest := by
  unfold dropSender at taken
  split at taken
  case isFalse => cases taken
  case isTrue stopping =>
      split at taken
      · cases taken
      case h_2 worker rest senders =>
          split at taken
          · cases taken
          case h_2 lane found =>
              cases taken
              exact ⟨worker, lane, rest, stopping, senders, found, rfl⟩

/-- What a step can do. -/
inductive Steps (pool : ThreadPool Stream) : ThreadPool Stream → Prop where
  | enter {stream : Stream} {submitted : List Stream}
      {returned : List (Stream × MzaniError)} :
      pool.stopping = false →
      (∀ entry ∈ returned, entry ∈ pool.returned) →
      Steps pool
        { pool with
          calls := pool.calls ++ [{ stream, step := .entered }]
          submitted
          returned }
  | advance {next : ThreadPool Stream} {number : Nat} :
      Advances pool number next → Steps pool next
  | work {next : ThreadPool Stream} {worker : Nat} : Works pool worker next → Steps pool next
  | signal : Steps pool { pool with shuttingDown := true }
  | beginStop : pool.calls = [] →
      Steps pool { pool with shuttingDown := true, stopping := true }
  | dropSender {next : ThreadPool Stream} {worker : Nat} {lane : Lane Stream}
      {rest : List Nat} : DropsSender pool next worker lane rest → Steps pool next
  | endStop : pool.connectionTxs = [] → Steps pool { pool with stopping := false }

theorem steps_of_step [DecidableEq Stream] {action : PoolAction Stream}
    (taken : pool.step action = some next) : Steps pool next := by
  cases action with
  | submit stream =>
      simp only [step, enterSubmit] at taken
      split at taken
      · cases taken
      case isFalse free =>
          have notStopping := Bool.eq_false_iff.mpr free
          split at taken
          · split at taken
            · cases taken
              exact .enter notStopping fun _ => List.mem_of_mem_eraseP
            · cases taken
          · cases taken
            exact .enter notStopping fun _ member => member
  | advance call => exact .advance (advances_of_advance taken)
  | work worker => exact .work (works_of_work taken)
  | setShuttingDown =>
      cases taken
      exact .signal
  | stopAccepting =>
      simp only [step, beginStop] at taken
      split at taken
      case isTrue free =>
          cases taken
          exact .beginStop (List.length_eq_zero_iff.mp free.2)
      case isFalse => cases taken
  | dropSender =>
      obtain ⟨worker, lane, rest, dropped⟩ := dropsSender_of_dropSender taken
      exact .dropSender dropped
  | stopped =>
      simp only [step, endStop] at taken
      split at taken
      case isTrue done =>
          cases taken
          exact .endStop done.2
      case isFalse => cases taken

end ThreadPool

end Mzani
