import Mzani.Core.PoolDispatch
import Mzani.Support.Exhaustion

/-!
# A pool that nobody submits to

The steps that are left until no call of `submit` is on, all queues are empty and
all workers wait, if each call of `handle_connection` is so long at most.
-/

namespace Mzani

open Support

namespace ThreadPool

variable {Stream : Type}

/-- What a worker has left to do before it waits again, its call apart. -/
def workerRemaining (length : Nat) : WorkerStep Stream → Nat
  | .receiving => 0
  | .received _ => 8 * length + 3
  | .refusing _ => 1
  | .numbering _ => 8 * length + 2
  | .handling _ => 1
  | .exited => 0

/-- How long the call is that the worker begins next. -/
def granted (length : Nat) : WorkerStep Stream → Nat
  | .numbering _ => length
  | _ => 0

/-- What is left to do in a lane, where the call of the worker is over after `left`
steps.  A step of a call counts for all that it can cause elsewhere. -/
def laneRemaining (length left : Nat) (lane : Lane Stream) : Nat :=
  workerRemaining length lane.worker + 8 * left + (8 * length + 4) * lane.queue.queue.length

/-- What is left to do for a connection that is still in `submit`. -/
def callRemaining (length : Nat) (call : SubmitCall Stream) : Nat :=
  match call.step with
  | .entered => 8 * length + 10
  | .accepted => 8 * length + 8
  | .dispatched _ => 8 * length + 6

/-- What is left to do, where the calls of the workers are over after `left` steps. -/
def remaining (length : Nat) (left : Nat → Nat) (pool : ThreadPool Stream) : Nat :=
  (Finset.range pool.lanes.length).sum (fun worker =>
    (pool.lanes[worker]?).elim 0 (laneRemaining length (left worker))) +
    (pool.calls.map (callRemaining length)).sum

variable {pool next : ThreadPool Stream} {worker length : Nat} {left : Nat → Nat}
  {lane old : Lane Stream}

/-! ## What a step uses up -/

/-- What is left to do after a change in one lane. -/
theorem remaining_setLane (found : pool.lanes[worker]? = some old)
    (lanes : next.lanes = pool.lanes.set worker lane) (calls : next.calls = pool.calls)
    (value : Nat) :
    next.remaining length (Function.update left worker value) +
        laneRemaining length (left worker) old =
      pool.remaining length left + laneRemaining length value lane := by
  have inside := (List.getElem?_eq_some_iff.mp found).1
  have changed := @sum_range_change
    (fun other => (pool.lanes[other]?).elim 0 (laneRemaining length (left other)))
    (fun other => (next.lanes[other]?).elim 0
      (laneRemaining length (Function.update left worker value other)))
    pool.lanes.length worker inside (fun other different => by
      rw [lanes, List.getElem?_set_ne (Ne.symm different), Function.update_of_ne different])
  have atWorker : next.lanes[worker]? = some lane := by
    rw [lanes, List.getElem?_set_self inside]
  have sameLength : next.lanes.length = pool.lanes.length := by rw [lanes, List.length_set]
  simp only [found, atWorker, Option.elim_some, Function.update_self] at changed
  rw [remaining, remaining, sameLength, calls]
  omega

/-- A call at a worker that goes on uses up its steps. -/
theorem remaining_goOn (found : pool.lanes[worker]? = some lane) (value : Nat) :
    pool.remaining length (Function.update left worker value) + 8 * left worker =
      pool.remaining length left + 8 * value := by
  obtain ⟨inside, same⟩ := List.getElem?_eq_some_iff.mp found
  have lanes : pool.lanes = pool.lanes.set worker lane := by
    rw [← same, List.set_getElem_self]
  have changed := @remaining_setLane Stream pool pool worker length left lane lane found lanes rfl
    value
  unfold laneRemaining at changed
  omega

/-- A step of a worker in its loop uses up something, even if a call begins. -/
theorem remaining_of_works (works : Works pool worker next)
    (alive : ∀ lane : Lane Stream, pool.lanes[worker]? = some lane → lane.queue.senders ≠ 0) :
    ∃ lane, pool.lanes[worker]? = some lane ∧
      next.remaining length (Function.update left worker (granted length lane.worker)) <
        pool.remaining length left := by
  have change : ∀ {old lane : Lane Stream}, pool.lanes[worker]? = some old →
      next.lanes = pool.lanes.set worker lane → next.calls = pool.calls →
      laneRemaining length (granted length old.worker) lane < laneRemaining length 0 old →
      ∃ lane, pool.lanes[worker]? = some lane ∧
        next.remaining length (Function.update left worker (granted length lane.worker)) <
          pool.remaining length left := by
    intro old lane found lanes calls less
    have changed := @remaining_setLane Stream pool next worker length left lane old found lanes
      calls (granted length old.worker)
    refine ⟨old, found, ?_⟩
    unfold laneRemaining at less changed
    omega
  cases works with
  | @receive lane stream queue found waiting received =>
      apply change found rfl rfl
      have count := congrArg List.length received.queue
      rw [List.length_cons] at count
      simp only [laneRemaining, workerRemaining, granted, waiting, count, Nat.mul_add]
      omega
  | exit found waiting empty gone => exact absurd gone (alive _ found)
  | @refuse lane stream found holds =>
      apply change found rfl rfl
      simp only [laneRemaining, workerRemaining, granted, holds]
      omega
  | @accept lane stream found holds =>
      apply change found rfl rfl
      simp only [laneRemaining, workerRemaining, granted, holds]
      omega
  | @answer lane stream found holds =>
      apply change found rfl rfl
      simp only [laneRemaining, workerRemaining, granted, holds]
      omega
  | @handle lane stream found holds =>
      apply change found rfl rfl
      simp only [laneRemaining, workerRemaining, granted, holds]
      omega
  | @finish lane req found holds =>
      apply change found rfl rfl
      simp only [laneRemaining, workerRemaining, granted, holds]
      omega

/-- What a connection costs that arrives. -/
theorem remaining_of_enterSubmit [DecidableEq Stream] {stream : Stream}
    (entered : pool.enterSubmit stream = some next) :
    next.remaining length left = pool.remaining length left + (8 * length + 10) := by
  have arrived : next.lanes = pool.lanes ∧ next.calls = pool.calls ++ [⟨stream, .entered⟩] := by
    unfold enterSubmit at entered
    dsimp only at entered
    split at entered
    · cases entered
    · split at entered
      · split at entered
        · cases entered
          exact ⟨rfl, rfl⟩
        · cases entered
      · cases entered
        exact ⟨rfl, rfl⟩
  rw [remaining, remaining, arrived.1, arrived.2, List.map_append, List.sum_append, ← Nat.add_assoc]
  rfl

/-- A step of a call of `submit` uses up more than its caller can send to the log
afterwards. -/
theorem remaining_of_advance (taken : pool.advance 0 = some next) :
    next.remaining length left + 2 ≤ pool.remaining length left := by
  unfold advance at taken
  cases calls : pool.calls with
  | nil =>
      rw [calls] at taken
      cases taken
  | cons call rest =>
      rw [calls, List.getElem?_cons_zero] at taken
      dsimp only at taken
      have ended : ∀ error, 6 ≤ callRemaining length call →
          (pool.giveBack 0 call.stream error).remaining length left + 2 ≤
            pool.remaining length left := by
        intro error enough
        simp only [remaining, giveBack, endCall, calls, List.eraseIdx_zero, List.tail_cons,
          List.map_cons, List.sum_cons]
        omega
      split at taken
      case h_1 entered =>
          split at taken
          · cases taken
            exact ended _ (by simp only [callRemaining, entered]; omega)
          · cases taken
            simp only [remaining, setCall, calls, List.set_cons_zero, List.map_cons,
              List.sum_cons, callRemaining, entered]
            omega
      case h_2 accepted =>
          split at taken
          · cases taken
            exact ended _ (by simp only [callRemaining, accepted]; omega)
          · cases taken
            simp only [remaining, setCall, calls, List.set_cons_zero, List.map_cons,
              List.sum_cons, callRemaining, accepted]
            omega
      case h_3 index dispatched =>
          have enough : callRemaining length call = 8 * length + 6 := by
            simp only [callRemaining, dispatched]
          split at taken
          · cases taken
          case h_2 worker chosen =>
            split at taken
            · cases taken
            case h_2 lane found =>
                split at taken
                case h_1 queue answer =>
                    cases taken
                    have inQueue := congrArg List.length (Channel.sent_of_trySend answer).queue
                    rw [List.length_append, List.length_singleton] at inQueue
                    have changed := @remaining_setLane Stream (pool.endCall 0)
                      ((pool.endCall 0).setLane worker { lane with queue }) worker length left
                      { lane with queue } lane found rfl rfl (left worker)
                    rw [Function.update_eq_self] at changed
                    have fewer : (pool.endCall 0).remaining length left +
                        callRemaining length call = pool.remaining length left := by
                      simp only [remaining, endCall, calls, List.eraseIdx_zero, List.tail_cons,
                        List.map_cons, List.sum_cons]
                      omega
                    simp only [laneRemaining, inQueue, Nat.mul_add] at changed
                    omega
                · cases taken
                  exact ended _ (by omega)
                · cases taken
                  exact ended _ (by omega)

theorem remaining_spawn {config : PoolConfig} {positive : 0 < config.perWorkerQueue.val}
    {shuttingDown : Bool} :
    (spawn config positive shuttingDown : ThreadPool Stream).remaining length (fun _ => 0) = 0 := by
  rw [remaining]
  apply Nat.add_eq_zero_iff.mpr
  constructor
  · apply Finset.sum_eq_zero
    intro worker _
    cases found : (spawn config positive shuttingDown : ThreadPool Stream).lanes[worker]? with
    | none => rfl
    | some lane =>
        rw [(getElem?_spawn found).2]
        rfl
  · rfl

/-! ## Where nothing is left -/

/-- No call of `submit` is on, the queues are empty and all workers wait. -/
structure Idle (pool : ThreadPool Stream) : Prop where
  calls : pool.calls = []
  receiving : ∀ (worker : Nat) (lane : Lane Stream), pool.lanes[worker]? = some lane →
    lane.worker = .receiving
  queues : ∀ (worker : Nat) (lane : Lane Stream), pool.lanes[worker]? = some lane →
    lane.queue.queue = []

/-- A worker that cannot go on waits for a connection, as its sender is there. -/
theorem receiving_of_stuck {capacity : Nat} (wired : pool.Wired capacity)
    (staffed : worker ∈ pool.connectionTxs) (found : pool.lanes[worker]? = some lane)
    (stuck : pool.work worker = none) : lane.worker = .receiving ∧ lane.queue.queue = [] := by
  have senders : lane.queue.senders ≠ 0 := by
    rw [(wired found).senders]
    exact (List.count_pos_iff.mpr staffed).ne'
  unfold work at stuck
  rw [found] at stuck
  dsimp only at stuck
  split at stuck
  case h_1 waiting =>
      split at stuck
      · cases stuck
      · cases stuck
      case h_3 blocked =>
          refine ⟨waiting, ?_⟩
          cases pending : lane.queue.queue with
          | nil => rfl
          | cons stream rest =>
              obtain ⟨queue, answer, _⟩ := Channel.exists_recv pending
              rw [blocked] at answer
              cases answer
  case h_2 => split at stuck <;> cases stuck
  case h_3 => cases stuck
  case h_4 => cases stuck
  case h_5 => cases stuck
  case h_6 exited => exact absurd ((wired found).drained exited).2 senders

/-- A pool with one caller whose workers wait has handled every connection that it
has not given back. -/
theorem InTurn.settled [DecidableEq Stream] {workers : Nat} {earlier : List Stream}
    (inTurn : pool.InTurn workers earlier) (idle : pool.Idle) {stream : Stream}
    (submitted : stream ∈ pool.submitted) :
    stream ∈ pool.contents .handled ∨ stream ∈ pool.contents .returned := by
  have noCall : pool.contents .submitting = [] := by
    rw [contents, idle.calls]
    rfl
  rw [inTurn.submitted, noCall, List.append_nil] at submitted
  by_cases returned : stream ∈ pool.contents .returned
  · exact .inr returned
  · left
    obtain ⟨worker, inside, turn⟩ := @exists_mem_dealt _ workers _ usizeLimit inTurn.staffed _ submitted
    have held : stream ∈ pool.queuedFor worker := by
      rw [inTurn.queues worker inside]
      exact List.mem_filter.mpr ⟨turn, by simpa using returned⟩
    have nothing : pool.contents (.moving worker) ++ pool.contents (.queued worker) = [] := by
      cases found : pool.lanes[worker]? with
      | none => simp only [contents, found, List.append_nil]
      | some lane =>
          rw [contents_moving found, contents_queued found, idle.receiving worker lane found,
            idle.queues worker lane found]
          rfl
    rw [queuedFor, nothing, List.append_nil] at held
    obtain ⟨entry, listed, rfl⟩ := List.mem_map.mp held
    exact List.mem_map_of_mem (List.mem_filter.mp listed).1

end ThreadPool

end Mzani
