import Mzani.Core.PoolConservation

/-!
# Accepted connections

What becomes of the streams that a worker has received: it holds them, passes
them to `handle_connection` or answers them itself.  Once all workers have gone
the accepted streams that were never passed on are those that were answered.
-/

namespace Mzani

open Support

namespace ThreadPool

variable {Stream : Type} {pool next : ThreadPool Stream}

/-- The streams that `submit` has accepted. -/
def accepted (pool : ThreadPool Stream) : List Stream :=
  pool.lanes.flatMap (·.queue.accepted)

/-- The accepted streams that were not passed to `handle_connection`. -/
def neverHandled [DecidableEq Stream] (pool : ThreadPool Stream) : List Stream :=
  pool.accepted.filter fun stream => stream ∉ pool.contents .handled

/-- Where the streams are that workers have received. -/
structure Traced (pool : ThreadPool Stream) : Prop where
  received : ∀ {worker : Nat} {lane : Lane Stream}, pool.lanes[worker]? = some lane →
    ∀ stream ∈ lane.queue.received, stream ∈ lane.worker.moving ∨
      stream ∈ pool.contents .handled ∨ stream ∈ pool.contents .refused
  moving : ∀ {worker : Nat} {lane : Lane Stream}, pool.lanes[worker]? = some lane →
    ∀ stream ∈ lane.worker.moving, stream ∈ lane.queue.received
  refused : ∀ stream ∈ pool.contents .refused, ∃ (worker : Nat) (lane : Lane Stream),
    pool.lanes[worker]? = some lane ∧ stream ∈ lane.queue.received

/-- A step inside a lane. -/
theorem traced_setLane {worker : Nat} {lane old : Lane Stream} (traced : pool.Traced)
    (found : pool.lanes[worker]? = some old)
    (lanes : next.lanes = pool.lanes.set worker lane)
    (handled : ∀ stream ∈ pool.contents .handled, stream ∈ next.contents .handled)
    (refused : ∀ stream ∈ pool.contents .refused, stream ∈ next.contents .refused)
    (kept : ∀ stream ∈ old.queue.received, stream ∈ lane.queue.received)
    (received : ∀ stream ∈ lane.queue.received, stream ∈ lane.worker.moving ∨
      stream ∈ next.contents .handled ∨ stream ∈ next.contents .refused)
    (moving : ∀ stream ∈ lane.worker.moving, stream ∈ lane.queue.received)
    (answered : ∀ stream ∈ next.contents .refused,
      stream ∈ pool.contents .refused ∨ stream ∈ lane.queue.received) :
    next.Traced := by
  have here : next.lanes[worker]? = some lane := by
    rw [lanes]
    exact lanes_setLane found
  have atLane : ∀ {other : Nat} {lane' : Lane Stream}, next.lanes[other]? = some lane' →
      (worker = other ∧ lane = lane') ∨ pool.lanes[other]? = some lane' := by
    intro other lane' atOther
    rw [lanes] at atOther
    change (pool.setLane worker lane).lanes[other]? = some lane' at atOther
    rcases getElem?_setLane atOther with ⟨rfl, rfl⟩ | ⟨_, before⟩
    · exact .inl ⟨rfl, rfl⟩
    · exact .inr before
  constructor
  · intro other lane' atOther stream member
    rcases atLane atOther with ⟨rfl, rfl⟩ | before
    · exact received stream member
    · rcases traced.received before stream member with moves | wasHandled | wasRefused
      · exact .inl moves
      · exact .inr (.inl (handled stream wasHandled))
      · exact .inr (.inr (refused stream wasRefused))
  · intro other lane' atOther
    rcases atLane atOther with ⟨rfl, rfl⟩ | before
    · exact moving
    · exact traced.moving before
  · intro stream member
    rcases answered stream member with before | now
    · obtain ⟨other, lane', atOther, inLane⟩ := traced.refused stream before
      by_cases same : other = worker
      · subst same
        rw [found, Option.some.injEq] at atOther
        subst atOther
        exact ⟨other, lane, here, kept stream inLane⟩
      · refine ⟨other, lane', ?_, inLane⟩
        rw [lanes, List.getElem?_set_ne (Ne.symm same)]
        exact atOther
    · exact ⟨worker, lane, here, now⟩

/-- A step inside a lane that receives and answers nothing. -/
theorem traced_setLane_same {worker : Nat} {lane old : Lane Stream} (traced : pool.Traced)
    (found : pool.lanes[worker]? = some old)
    (lanes : next.lanes = pool.lanes.set worker lane)
    (handled : next.handled = pool.handled) (refused : next.refused = pool.refused)
    (received : lane.queue.received = old.queue.received)
    (moving : lane.worker.moving = old.worker.moving) : next.Traced := by
  have sameHandled : next.contents .handled = pool.contents .handled :=
    congrArg (List.map Prod.fst) handled
  have sameRefused : next.contents .refused = pool.contents .refused :=
    congrArg (List.map Prod.fst) refused
  apply traced_setLane traced found lanes
  · rw [sameHandled]
    exact fun _ => id
  · rw [sameRefused]
    exact fun _ => id
  · rw [received]
    exact fun _ => id
  · rw [received, moving, sameHandled, sameRefused]
    exact traced.received found
  · rw [received, moving]
    exact traced.moving found
  · rw [sameRefused]
    exact fun _ => .inl

theorem traced_of_works {worker : Nat} (traced : pool.Traced)
    (works : Works pool worker next) : next.Traced := by
  cases works with
  | @receive lane stream queue found waiting received =>
      have idle : lane.worker.moving = [] := by rw [waiting]; rfl
      refine traced_setLane traced found rfl (fun _ => id) (fun _ => id) ?_ ?_ ?_ ?_
      · intro other member
        rw [received.received]
        exact List.mem_append_left _ member
      · intro other member
        rw [received.received] at member
        rcases List.mem_append.mp member with before | now
        · right
          have traces := traced.received found other before
          rw [idle] at traces
          exact traces.resolve_left List.not_mem_nil
        · exact .inl now
      · intro other member
        rw [received.received]
        exact List.mem_append_right _ member
      · exact fun _ => .inl
  | exit found waiting _ _ =>
      refine traced_setLane_same traced found rfl rfl rfl rfl ?_
      rw [waiting]
      rfl
  | refuse found holds _ =>
      refine traced_setLane_same traced found rfl rfl rfl rfl ?_
      rw [holds]
      rfl
  | accept found holds _ =>
      refine traced_setLane_same traced found rfl rfl rfl rfl ?_
      rw [holds]
      rfl
  | @answer lane stream found holds =>
      have held : lane.worker.moving = [stream] := by rw [holds]; rfl
      have added : ∀ other, other ∈ (pool.refused ++
            [(stream, serviceUnavailable "shutting down")]).map Prod.fst ↔
          other ∈ pool.contents .refused ∨ other = stream := by
        simp [contents]
      refine traced_setLane traced found rfl (fun _ => id) ?_ ?_ ?_ ?_ ?_
      · exact fun other member => (added other).mpr (.inl member)
      · exact fun _ => id
      · intro other member
        right
        rcases traced.received found other member with moves | handled | refused
        · rw [held] at moves
          exact .inr ((added other).mpr (.inr (List.mem_singleton.mp moves)))
        · exact .inl handled
        · exact .inr ((added other).mpr (.inl refused))
      · intro other moves
        cases moves
      · intro other member
        rcases (added other).mp member with before | rfl
        · exact .inl before
        · right
          apply traced.moving found
          rw [held]
          exact List.mem_singleton_self other
  | @handle lane stream found holds =>
      have held : lane.worker.moving = [stream] := by rw [holds]; rfl
      have added : ∀ other, other ∈ (pool.handled ++
            [(stream, (⟨pool.nextReqId, worker⟩ : RequestContext))]).map Prod.fst ↔
          other ∈ pool.contents .handled ∨ other = stream := by
        simp [contents]
      refine traced_setLane traced found rfl ?_ ?_ ?_ ?_ ?_ ?_
      · exact fun other member => (added other).mpr (.inl member)
      · exact fun _ => id
      · exact fun _ => id
      · intro other member
        right
        rcases traced.received found other member with moves | handled | refused
        · rw [held] at moves
          exact .inl ((added other).mpr (.inr (List.mem_singleton.mp moves)))
        · exact .inl ((added other).mpr (.inl handled))
        · exact .inr refused
      · intro other moves
        cases moves
      · exact fun _ => .inl
  | finish found holds =>
      refine traced_setLane_same traced found rfl rfl rfl rfl ?_
      rw [holds]
      rfl

theorem traced_of_steps (traced : pool.Traced) (steps : Steps pool next) : next.Traced := by
  cases steps with
  | enter => exact ⟨traced.received, traced.moving, traced.refused⟩
  | advance advances =>
      cases advances with
      | giveBack => exact ⟨traced.received, traced.moving, traced.refused⟩
      | goOn => exact ⟨traced.received, traced.moving, traced.refused⟩
      | send found _ atLane sent =>
          exact traced_setLane_same traced atLane rfl rfl rfl sent.sameReceived rfl
  | work works => exact traced_of_works traced works
  | signal => exact ⟨traced.received, traced.moving, traced.refused⟩
  | beginStop => exact ⟨traced.received, traced.moving, traced.refused⟩
  | dropSender dropped =>
      obtain ⟨_, _, found, rfl⟩ := dropped
      exact traced_setLane_same traced found rfl rfl rfl rfl rfl
  | endStop => exact ⟨traced.received, traced.moving, traced.refused⟩

theorem traced_spawn {config : PoolConfig} {positive : 0 < config.perWorkerQueue.val}
    {shuttingDown : Bool} :
    (spawn config positive shuttingDown : ThreadPool Stream).Traced := by
  constructor
  · intro worker lane found
    rw [(getElem?_spawn found).2]
    intro stream received
    cases received
  · intro worker lane found
    rw [(getElem?_spawn found).2]
    intro stream moves
    cases moves
  · intro stream refused
    cases refused

/-- Once all workers have gone, the accepted streams that were never handled are
those that a worker answered. -/
theorem neverHandled_eq_nil_iff [DecidableEq Stream] {capacity : Nat}
    (invariant : pool.Invariant capacity) (traced : pool.Traced)
    (gone : ∀ lane ∈ pool.lanes, lane.worker = .exited) :
    pool.neverHandled = [] ↔ pool.refused = [] := by
  have inLane : ∀ stream ∈ pool.accepted, ∃ (worker : Nat) (lane : Lane Stream),
      pool.lanes[worker]? = some lane ∧ stream ∈ lane.queue.received := by
    intro stream member
    obtain ⟨lane, inPool, inQueue⟩ := List.mem_flatMap.mp member
    obtain ⟨worker, found⟩ := List.mem_iff_getElem?.mp inPool
    refine ⟨worker, lane, found, ?_⟩
    have empty := ((invariant.wired found).drained (gone lane inPool)).1
    rwa [Channel.received_of_empty empty] at inQueue
  unfold neverHandled
  rw [List.filter_eq_nil_iff]
  constructor
  · intro handled
    apply List.eq_nil_iff_forall_not_mem.mpr
    intro entry member
    have refused : entry.1 ∈ pool.contents .refused := List.mem_map_of_mem member
    obtain ⟨worker, lane, found, received⟩ := traced.refused entry.1 refused
    have accepted : entry.1 ∈ pool.accepted := by
      apply List.mem_flatMap.mpr
      refine ⟨lane, List.mem_of_getElem? found, ?_⟩
      rw [lane.queue.fifo]
      exact List.mem_append_left _ received
    have passed : entry.1 ∈ pool.contents .handled := by simpa using handled _ accepted
    cases invariant.conserving.exclusive.onePlace refused passed
  · intro none stream member
    obtain ⟨worker, lane, found, received⟩ := inLane stream member
    rcases traced.received found stream received with moves | handled | refused
    · rw [gone lane (List.mem_of_getElem? found)] at moves
      cases moves
    · simpa using handled
    · simp [contents, none] at refused

end ThreadPool

end Mzani
