import Mzani.Core.PoolConservation
import Mzani.Support.Dealing

/-!
# Dispatch

One caller after another gives its connections to the pool.  They go to the
workers in turn, and each worker takes those of its turns in the order of their
arrival, without the ones that were given back.
-/

namespace Mzani

open Support

namespace ThreadPool

variable {Stream : Type} {pool next : ThreadPool Stream} {worker other workers : Nat}
  {lane old : Lane Stream}

/-- The connections that the worker handled, the one that it is moving, and those
in its queue. -/
def queuedFor (pool : ThreadPool Stream) (worker : Nat) : List Stream :=
  (pool.handled.filter fun entry => entry.2.workerId = worker).map Prod.fst ++
    (pool.contents (.moving worker) ++ pool.contents (.queued worker))

/-- A step of a pool with one caller at a time, before shutdown. -/
inductive Serves [DecidableEq Stream] (pool : ThreadPool Stream) : ThreadPool Stream → Prop where
  | idle : Serves pool pool
  | arrive {next : ThreadPool Stream} (stream : Stream) : pool.calls = [] →
      stream ∉ pool.submitted → pool.enterSubmit stream = some next → Serves pool next
  | advance {next : ThreadPool Stream} : pool.advance 0 = some next → Serves pool next
  | work {next : ThreadPool Stream} (worker : Nat) : pool.work worker = some next →
      Serves pool next

/-! ## The connections of a worker -/

section

theorem queuedFor_congr (sameHandled : next.handled = pool.handled)
    (sameMoving : next.contents (.moving worker) = pool.contents (.moving worker))
    (sameQueued : next.contents (.queued worker) = pool.contents (.queued worker)) :
    next.queuedFor worker = pool.queuedFor worker := by
  rw [queuedFor, queuedFor, sameHandled, sameMoving, sameQueued]

theorem queuedFor_setLane_of_ne (different : other ≠ worker) (lane : Lane Stream) :
    (pool.setLane worker lane).queuedFor other = pool.queuedFor other := by
  refine queuedFor_congr rfl ?_ ?_
  · exact contents_setLane (by simp) (by simp [different])
  · exact contents_setLane (by simp [different]) (by simp)

theorem queuedFor_of_found (found : pool.lanes[worker]? = some lane) :
    pool.queuedFor worker =
      (pool.handled.filter fun entry => entry.2.workerId = worker).map Prod.fst ++
        (lane.worker.moving ++ lane.queue.queue) := by
  rw [queuedFor, contents_moving found, contents_queued found]

/-- A worker that keeps the order of what it holds. -/
theorem queuedFor_setLane (found : pool.lanes[worker]? = some old)
    (same : lane.worker.moving ++ lane.queue.queue = old.worker.moving ++ old.queue.queue)
    (other : Nat) : (pool.setLane worker lane).queuedFor other = pool.queuedFor other := by
  by_cases own : other = worker
  · subst own
    rw [queuedFor_of_found (lanes_setLane found), queuedFor_of_found found, same]
    rfl
  · exact queuedFor_setLane_of_ne own lane

/-- A worker that begins to handle what it was moving. -/
theorem queuedFor_handle {nextReqId : U64} {stream : Stream} {reqId : U64}
    (found : pool.lanes[worker]? = some old)
    (taken : old.worker.moving ++ old.queue.queue =
      stream :: (lane.worker.moving ++ lane.queue.queue)) (other : Nat) :
    ({ pool.setLane worker lane with
      nextReqId
      handled := pool.handled ++ [(stream, ⟨reqId, worker⟩)] } : ThreadPool Stream).queuedFor other =
      pool.queuedFor other := by
  by_cases same : other = worker
  · subst same
    have atLane : (pool.setLane other lane).lanes[other]? = some lane := lanes_setLane found
    rw [queuedFor_of_found found, taken]
    simp [queuedFor, contents, atLane]
  · have elsewhere : (pool.setLane worker lane).lanes[other]? = pool.lanes[other]? := by
      rw [setLane, List.getElem?_set_ne (Ne.symm same)]
    simp [queuedFor, contents, elsewhere, Ne.symm same]

/-- In its loop a worker that refuses nothing keeps its connections in order. -/
theorem queuedFor_of_works (works : Works pool worker next)
    (unrefused : ∀ lane, pool.lanes[worker]? = some lane → ∀ stream,
      lane.worker ≠ .refusing stream) (other : Nat) :
    next.queuedFor other = pool.queuedFor other := by
  cases works with
  | receive found waiting received =>
      apply queuedFor_setLane found
      rw [waiting, received.queue]
      rfl
  | exit found waiting empty =>
      apply queuedFor_setLane found
      rw [waiting]
      rfl
  | refuse found holds =>
      apply queuedFor_setLane found
      rw [holds]
      rfl
  | accept found holds =>
      apply queuedFor_setLane found
      rw [holds]
      rfl
  | answer found holds => exact absurd holds (unrefused _ found _)
  | handle found holds =>
      refine queuedFor_handle found ?_ other
      rw [holds]
      rfl
  | finish found holds =>
      apply queuedFor_setLane found
      rw [holds]
      rfl

end

/-! ## Turns -/

/-- How far the only call is after so many connections before it, and how many
tickets have been drawn. -/
inductive Drawn (workers count : Nat) : List (SubmitCall Stream) → Usize → Prop where
  | idle : Drawn workers count [] (Fin.ofNat usizeLimit count)
  | entered (stream : Stream) :
      Drawn workers count [⟨stream, .entered⟩] (Fin.ofNat usizeLimit count)
  | accepted (stream : Stream) :
      Drawn workers count [⟨stream, .accepted⟩] (Fin.ofNat usizeLimit count)
  | dispatched (stream : Stream) :
      Drawn workers count [⟨stream, .dispatched (count % usizeLimit % workers)⟩]
        (Fin.ofNat usizeLimit (count + 1))

theorem Drawn.enter {count : Nat} {index : Usize}
    (drawn : Drawn workers count ([] : List (SubmitCall Stream)) index) (stream : Stream) :
    Drawn workers count [⟨stream, .entered⟩] index := by
  cases drawn
  exact .entered stream

section

variable [DecidableEq Stream] {earlier : List Stream}

/-- The connections whose call of `submit` has returned, `earlier`, went to the
workers in turn; at most one other call is on. -/
structure InTurn (workers : Nat) (pool : ThreadPool Stream) (earlier : List Stream) : Prop where
  staffed : 0 < workers
  senders : pool.connectionTxs = List.range workers
  shuttingDown : pool.shuttingDown = false
  stopping : pool.stopping = false
  unrefused : ∀ (worker : Nat) (lane : Lane Stream), pool.lanes[worker]? = some lane →
    ∀ stream, lane.worker ≠ .refusing stream
  submitted : pool.submitted = earlier ++ pool.contents .submitting
  fresh : pool.submitted.Nodup
  drawn : Drawn workers earlier.length pool.calls pool.dispatchIndex
  returned : ∀ stream ∈ pool.contents .returned, stream ∈ earlier
  queues : ∀ worker < workers, pool.queuedFor worker =
    (dealt usizeLimit workers worker earlier).filter (· ∉ pool.contents .returned)

/-- The loop of a worker leaves the turns as they are. -/
theorem InTurn.work (inTurn : pool.InTurn workers earlier) (works : Works pool worker next) :
    next.InTurn workers earlier := by
  have queues : ∀ other < workers, next.queuedFor other =
      (dealt usizeLimit workers other earlier).filter (· ∉ pool.contents .returned) := by
    intro other inside
    rw [queuedFor_of_works works (inTurn.unrefused worker)]
    exact inTurn.queues other inside
  have calm : ∀ {lane : Lane Stream}, (∀ stream, lane.worker ≠ .refusing stream) →
      ∀ (other : Nat) (found : Lane Stream),
        (pool.setLane worker lane).lanes[other]? = some found →
        ∀ stream, found.worker ≠ .refusing stream := by
    intro lane here other found atOther
    rcases getElem?_setLane atOther with ⟨_, rfl⟩ | ⟨_, before⟩
    · exact here
    · exact inTurn.unrefused other found before
  cases works with
  | receive => exact { inTurn with unrefused := calm (by simp), queues }
  | exit => exact { inTurn with unrefused := calm (by simp), queues }
  | refuse found holds flag =>
      rw [inTurn.shuttingDown] at flag
      cases flag
  | accept => exact { inTurn with unrefused := calm (by simp), queues }
  | answer => exact { inTurn with unrefused := calm (by simp), queues }
  | handle => exact { inTurn with unrefused := calm (by simp), queues }
  | finish => exact { inTurn with unrefused := calm (by simp), queues }

theorem InTurn.arrive {stream : Stream} (inTurn : pool.InTurn workers earlier)
    (idle : pool.calls = []) (unknown : stream ∉ pool.submitted)
    (entered : pool.enterSubmit stream = some next) : next.InTurn workers earlier := by
  unfold enterSubmit at entered
  rw [if_neg (by simp [inTurn.stopping]), if_neg unknown] at entered
  cases entered
  have settled : pool.submitted = earlier := by
    rw [inTurn.submitted, contents, idle]
    exact List.append_nil earlier
  refine { inTurn with submitted := ?_, fresh := ?_, drawn := ?_ }
  · simp [settled, contents, idle]
  · exact List.nodup_append_comm.mpr (List.nodup_cons.mpr ⟨unknown, inTurn.fresh⟩)
  · have drawn := inTurn.drawn
    rw [idle] at drawn ⊢
    exact drawn.enter stream

/-- The connection of the only call is none of the earlier ones. -/
theorem InTurn.unknown {call : SubmitCall Stream} (inTurn : pool.InTurn workers earlier)
    (alone : pool.calls = [call]) : call.stream ∉ earlier := by
  have fresh := inTurn.fresh
  rw [inTurn.submitted, contents, alone] at fresh
  exact List.disjoint_left.mp (List.disjoint_of_nodup_append fresh) |>.mt (by simp)

/-- The connection is given back. -/
theorem InTurn.giveBack {call : SubmitCall Stream} (inTurn : pool.InTurn workers earlier)
    (alone : pool.calls = [call])
    (drawn : pool.dispatchIndex = Fin.ofNat usizeLimit (earlier.length + 1)) (error : MzaniError) :
    (pool.giveBack 0 call.stream error).InTurn workers (earlier ++ [call.stream]) := by
  have ended : pool.calls.eraseIdx 0 = [] := by
    rw [alone]
    rfl
  have unknown := inTurn.unknown alone
  have returned : (pool.giveBack 0 call.stream error).contents .returned =
      pool.contents .returned ++ [call.stream] := List.map_append
  refine { inTurn with submitted := ?_, drawn := ?_, returned := ?_, queues := ?_ }
  · have submitting : (pool.giveBack 0 call.stream error).contents .submitting = [] :=
      congrArg (List.map SubmitCall.stream) ended
    rw [submitting, List.append_nil]
    have submitted := inTurn.submitted
    rw [contents, alone] at submitted
    exact submitted
  · change Drawn workers _ (pool.calls.eraseIdx 0) pool.dispatchIndex
    rw [ended, drawn, List.length_append, List.length_singleton]
    exact .idle
  · intro stream member
    rw [returned] at member
    rcases List.mem_append.mp member with before | now
    · exact List.mem_append_left _ (inTurn.returned stream before)
    · exact List.mem_append_right _ now
  · intro worker inside
    have others : (dealt usizeLimit workers worker earlier).filter
        (· ∉ pool.contents .returned ++ [call.stream]) =
          (dealt usizeLimit workers worker earlier).filter (· ∉ pool.contents .returned) := by
      apply List.filter_congr
      intro stream member
      have different : stream ≠ call.stream := fun same => unknown (same ▸ mem_of_mem_dealt member)
      simp [different]
    have itself : (if earlier.length % usizeLimit % workers = worker then [call.stream]
        else []).filter (· ∉ pool.contents .returned ++ [call.stream]) = [] := by
      split <;> simp
    rw [returned, dealt_concat, List.filter_append, others, itself, List.append_nil]
    exact inTurn.queues worker inside

/-- The connection is queued for the worker whose turn it is. -/
theorem InTurn.send {call : SubmitCall Stream} {queue : Channel Stream}
    (inTurn : pool.InTurn workers earlier) (alone : pool.calls = [call])
    (drawn : pool.dispatchIndex = Fin.ofNat usizeLimit (earlier.length + 1))
    (found : pool.lanes[earlier.length % usizeLimit % workers]? = some lane)
    (sent : lane.queue.Sent call.stream queue) :
    ((pool.endCall 0).setLane (earlier.length % usizeLimit % workers)
      { lane with queue }).InTurn workers (earlier ++ [call.stream]) := by
  let chosen := earlier.length % usizeLimit % workers
  have ended : pool.calls.eraseIdx 0 = [] := by
    rw [alone]
    rfl
  have kept : call.stream ∉ pool.contents .returned := fun member =>
    inTurn.unknown alone (inTurn.returned _ member)
  have atLane : (pool.endCall 0).lanes[chosen]? = some lane := found
  refine { inTurn with
    unrefused := ?_, submitted := ?_, drawn := ?_, returned := ?_, queues := ?_ }
  · intro other lane' atOther
    rcases getElem?_setLane atOther with ⟨_, rfl⟩ | ⟨_, before⟩
    · exact inTurn.unrefused chosen lane found
    · exact inTurn.unrefused other lane' before
  · have submitting : ((pool.endCall 0).setLane chosen { lane with queue }).contents .submitting =
        [] := congrArg (List.map SubmitCall.stream) ended
    rw [submitting, List.append_nil]
    have submitted := inTurn.submitted
    rw [contents, alone] at submitted
    exact submitted
  · change Drawn workers _ (pool.calls.eraseIdx 0) pool.dispatchIndex
    rw [ended, drawn, List.length_append, List.length_singleton]
    exact .idle
  · intro stream member
    exact List.mem_append_left _ (inTurn.returned stream member)
  · intro worker inside
    have before : (pool.endCall 0).queuedFor worker =
        (dealt usizeLimit workers worker earlier).filter (· ∉ pool.contents .returned) :=
      inTurn.queues worker inside
    have sameReturned : ((pool.endCall 0).setLane chosen { lane with queue }).contents .returned =
        pool.contents .returned := rfl
    rw [sameReturned, dealt_concat, List.filter_append, ← before]
    by_cases mine : worker = chosen
    · subst mine
      rw [if_pos rfl, List.filter_singleton, queuedFor_of_found (lanes_setLane atLane),
        queuedFor_of_found atLane, sent.queue]
      simp [kept, setLane]
    · rw [if_neg (Ne.symm mine), List.filter_nil, List.append_nil]
      exact queuedFor_setLane_of_ne mine _

/-- A step of the only call of `submit`; when it returns there is one more earlier
connection. -/
theorem InTurn.advance (inTurn : pool.InTurn workers earlier)
    (advanced : pool.advance 0 = some next) :
    ∃ more, next.InTurn workers (earlier ++ more) := by
  have drawn := inTurn.drawn
  generalize atCalls : pool.calls = calls at drawn
  generalize atIndex : pool.dispatchIndex = index at drawn
  unfold ThreadPool.advance at advanced
  cases drawn with
  | idle =>
      rw [atCalls] at advanced
      cases advanced
  | entered stream =>
      simp only [atCalls, List.getElem?_cons_zero] at advanced
      rw [if_neg (by simp [inTurn.shuttingDown])] at advanced
      cases advanced
      refine ⟨[], ?_⟩
      rw [List.append_nil]
      refine { inTurn with submitted := ?_, drawn := ?_ }
      · have submitted := inTurn.submitted
        rw [contents, atCalls] at submitted
        simpa [contents, setCall, atCalls] using submitted
      · simp only [setCall, atCalls, List.set_cons_zero, atIndex]
        exact .accepted stream
  | accepted stream =>
      have nonempty : pool.connectionTxs ≠ [] := by
        rw [inTurn.senders, ← List.length_pos_iff, List.length_range]
        exact inTurn.staffed
      simp only [atCalls, List.getElem?_cons_zero, if_neg nonempty] at advanced
      cases advanced
      refine ⟨[], ?_⟩
      rw [List.append_nil]
      refine { inTurn with submitted := ?_, drawn := ?_ }
      · have submitted := inTurn.submitted
        rw [contents, atCalls] at submitted
        simpa [contents, setCall, atCalls] using submitted
      · have next : Fin.ofNat usizeLimit earlier.length + 1 =
            Fin.ofNat usizeLimit (earlier.length + 1) := by
          apply Fin.ext
          simp [Fin.val_add]
        simp only [setCall, atCalls, List.set_cons_zero, atIndex, inTurn.senders, List.length_range,
          next]
        exact .dispatched stream
  | dispatched stream =>
      let chosen := earlier.length % usizeLimit % workers
      have sender : pool.connectionTxs[chosen]? = some chosen := by
        rw [inTurn.senders]
        exact List.getElem?_range (Nat.mod_lt _ inTurn.staffed)
      simp only [atCalls, List.getElem?_cons_zero, sender, chosen] at advanced
      split at advanced
      · cases advanced
      case h_2 lane found =>
          split at advanced
          case h_1 queue answer =>
              cases advanced
              exact ⟨[stream], inTurn.send atCalls atIndex found (Channel.sent_of_trySend answer)⟩
          case h_2 =>
              cases advanced
              exact ⟨[stream], inTurn.giveBack atCalls atIndex .poolFull⟩
          case h_3 =>
              cases advanced
              exact ⟨[stream], inTurn.giveBack atCalls atIndex .shutdownInProgress⟩

theorem InTurn.serves (inTurn : pool.InTurn workers earlier) (serves : Serves pool next) :
    ∃ more, next.InTurn workers (earlier ++ more) := by
  cases serves with
  | idle => exact ⟨[], by rwa [List.append_nil]⟩
  | arrive stream idle unknown entered =>
      exact ⟨[], by rw [List.append_nil]; exact inTurn.arrive idle unknown entered⟩
  | advance advanced => exact inTurn.advance advanced
  | work worker worked =>
      exact ⟨[], by rw [List.append_nil]; exact inTurn.work (works_of_work worked)⟩

theorem inTurn_spawn {config : PoolConfig} {positive : 0 < config.perWorkerQueue.val}
    (workers : config.workers ≠ 0) :
    (spawn config positive false : ThreadPool Stream).InTurn config.workers.val [] where
  staffed := Nat.pos_of_ne_zero fun zero => workers (Fin.ext zero)
  senders := rfl
  shuttingDown := rfl
  stopping := rfl
  unrefused := by
    intro worker lane found stream
    rw [(getElem?_spawn found).2]
    simp
  submitted := rfl
  fresh := List.nodup_nil
  drawn := .idle
  returned := fun _ member => member
  queues := fun worker _ => by
    rw [queuedFor, contents_spawn, contents_spawn]
    rfl

end

end ThreadPool

end Mzani
