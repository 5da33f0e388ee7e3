import Mzani.Core.PoolWiring

/-!
# Conservation of connections

In every interleaving each stream given to `submit` is in one place: with the
call or the worker that moves it, back with the caller, in one queue, passed to
`handle_connection`, or answered.
-/

namespace Mzani

open Support

namespace ThreadPool

variable {Stream : Type} {pool next : ThreadPool Stream}

/-! ## Places -/

inductive Place where
  | submitting
  | returned
  | queued (worker : Nat)
  | moving (worker : Nat)
  | handled
  | refused
  deriving DecidableEq

/-- The streams at a place. -/
def contents (pool : ThreadPool Stream) : Place → List Stream
  | .submitting => pool.calls.map (·.stream)
  | .returned => pool.returned.map Prod.fst
  | .queued worker =>
      match pool.lanes[worker]? with
      | some lane => lane.queue.queue
      | none => []
  | .moving worker =>
      match pool.lanes[worker]? with
      | some lane => lane.worker.moving
      | none => []
  | .handled => pool.handled.map Prod.fst
  | .refused => pool.refused.map Prod.fst

section

variable {worker : Nat} {lane old : Lane Stream}

theorem contents_queued (found : pool.lanes[worker]? = some lane) :
    pool.contents (.queued worker) = lane.queue.queue := by
  simp [contents, found]

theorem contents_moving (found : pool.lanes[worker]? = some lane) :
    pool.contents (.moving worker) = lane.worker.moving := by
  simp [contents, found]

theorem contents_queued_setLane (found : pool.lanes[worker]? = some old) :
    (pool.setLane worker lane).contents (.queued worker) = lane.queue.queue :=
  contents_queued (lanes_setLane found)

theorem contents_moving_setLane (found : pool.lanes[worker]? = some old) :
    (pool.setLane worker lane).contents (.moving worker) = lane.worker.moving :=
  contents_moving (lanes_setLane found)

/-- Apart from its own queue and worker, a changed lane changes no place. -/
theorem contents_setLane {place : Place} (notQueue : place ≠ .queued worker)
    (notWorker : place ≠ .moving worker) :
    (pool.setLane worker lane).contents place = pool.contents place := by
  cases place with
  | queued other =>
      have different : worker ≠ other := fun same => notQueue (by rw [same])
      simp [contents, setLane, List.getElem?_set_ne different]
  | moving other =>
      have different : worker ≠ other := fun same => notWorker (by rw [same])
      simp [contents, setLane, List.getElem?_set_ne different]
  | submitting => rfl
  | returned => rfl
  | handled => rfl
  | refused => rfl

end

/-! ## Transfers -/

/-- What a step does with the streams. -/
inductive Transfers (pool next : ThreadPool Stream) : Prop where
  | enters {stream : Stream} :
      Enters stream .submitting pool.contents next.contents →
      next.submitted = pool.submitted ++ [stream] → Transfers pool next
  | moves {stream : Stream} {source target : Place} :
      Moves stream source target pool.contents next.contents →
      next.submitted = pool.submitted → Transfers pool next
  | stays : next.contents = pool.contents → next.submitted = pool.submitted →
      Transfers pool next

/-- A step inside a lane that keeps its queue and the stream of its worker. -/
theorem contents_setLane_same {worker : Nat} {lane old : Lane Stream}
    (found : pool.lanes[worker]? = some old) (sameQueue : lane.queue.queue = old.queue.queue)
    (sameStream : lane.worker.moving = old.worker.moving) :
    (pool.setLane worker lane).contents = pool.contents := by
  funext place
  by_cases atQueue : place = .queued worker
  · rw [atQueue, contents_queued_setLane found, contents_queued found, sameQueue]
  · by_cases atWorker : place = .moving worker
    · rw [atWorker, contents_moving_setLane found, contents_moving found, sameStream]
    · exact contents_setLane atQueue atWorker

theorem calls_perm {number : Nat} {call : SubmitCall Stream}
    (found : pool.calls[number]? = some call) :
    (pool.contents .submitting).Perm
      (call.stream :: (pool.endCall number).contents .submitting) := by
  obtain ⟨bound, rfl⟩ := List.getElem?_eq_some_iff.mp found
  exact ((List.getElem_cons_eraseIdx_perm bound).map (·.stream)).symm

theorem moves_giveBack {number : Nat} {call : SubmitCall Stream}
    (found : pool.calls[number]? = some call) (error : MzaniError) :
    Moves call.stream .submitting .returned pool.contents
      (pool.giveBack number call.stream error).contents where
  distinct := by decide
  removed := calls_perm found
  added := by
    have last : (pool.giveBack number call.stream error).contents .returned =
        pool.contents .returned ++ [call.stream] := List.map_append
    rw [last]
    exact List.perm_append_singleton _ _
  others := by
    intro place notSource notTarget
    cases place with
    | submitting => exact absurd rfl notSource
    | returned => exact absurd rfl notTarget
    | queued worker => rfl
    | moving worker => rfl
    | handled => rfl
    | refused => rfl

theorem contents_setCall {number : Nat} {call : SubmitCall Stream} {step : SubmitStep}
    (found : pool.calls[number]? = some call) :
    (pool.setCall number { call with step }).contents = pool.contents := by
  have sameStreams : (pool.setCall number { call with step }).contents .submitting =
      pool.contents .submitting := by
    apply List.ext_getElem?
    intro other
    change (List.map _ (pool.calls.set number _))[other]? = (pool.calls.map _)[other]?
    rw [List.getElem?_map, List.getElem?_map, List.getElem?_set]
    split
    case isTrue same =>
        rw [← same, found, if_pos (List.getElem?_eq_some_iff.mp found).1]
        rfl
    case isFalse => rfl
  funext place
  cases place with
  | submitting => exact sameStreams
  | returned => rfl
  | queued worker => rfl
  | moving worker => rfl
  | handled => rfl
  | refused => rfl

theorem moves_send {number worker : Nat} {call : SubmitCall Stream} {lane : Lane Stream}
    {queue : Channel Stream} (found : pool.calls[number]? = some call)
    (atLane : pool.lanes[worker]? = some lane) (sent : lane.queue.Sent call.stream queue) :
    Moves call.stream .submitting (.queued worker) pool.contents
      ((pool.endCall number).setLane worker { lane with queue }).contents := by
  have atLane' : (pool.endCall number).lanes[worker]? = some lane := atLane
  constructor
  · exact Place.noConfusion
  · rw [contents_setLane Place.noConfusion Place.noConfusion]
    exact calls_perm found
  · rw [contents_queued_setLane atLane', contents_queued atLane, sent.queue]
    exact List.perm_append_singleton _ _
  · intro place notSource notTarget
    have ended : (pool.endCall number).contents place = pool.contents place := by
      cases place with
      | submitting => exact absurd rfl notSource
      | returned => rfl
      | queued other => rfl
      | moving other => rfl
      | handled => rfl
      | refused => rfl
    rw [← ended]
    by_cases atWorker : place = .moving worker
    · rw [atWorker, contents_moving_setLane atLane', contents_moving atLane']
    · exact contents_setLane notTarget atWorker

theorem moves_receive {worker : Nat} {lane : Lane Stream} {stream : Stream}
    {queue : Channel Stream} (found : pool.lanes[worker]? = some lane)
    (waiting : lane.worker = .receiving) (received : lane.queue.Received stream queue) :
    Moves stream (.queued worker) (.moving worker) pool.contents
      (pool.setLane worker { queue, worker := .received stream }).contents := by
  constructor
  · exact Place.noConfusion
  · rw [contents_queued found, contents_queued_setLane found, received.queue]
  · rw [contents_moving found, contents_moving_setLane found, waiting]
    exact List.Perm.refl _
  · intro place notSource notTarget
    exact contents_setLane notSource notTarget

/-- A worker gives the stream it moves to the place `target`. -/
theorem moves_leave {worker : Nat} {lane : Lane Stream} {stream : Stream}
    {step : WorkerStep Stream} {target : Place} (found : pool.lanes[worker]? = some lane)
    (holds : lane.worker.moving = [stream]) (empty : step.moving = [])
    (elsewhere : target ≠ .moving worker)
    (kept : ∀ place, place ≠ target →
      next.contents place = (pool.setLane worker { lane with worker := step }).contents place)
    (added : next.contents target = pool.contents target ++ [stream]) :
    Moves stream (.moving worker) target pool.contents next.contents := by
  constructor
  · exact elsewhere.symm
  · rw [kept _ elsewhere.symm, contents_moving found, contents_moving_setLane found, holds,
      empty]
  · rw [added]
    exact List.perm_append_singleton _ _
  · intro place notSource notTarget
    rw [kept place notTarget]
    by_cases atQueue : place = .queued worker
    · rw [atQueue, contents_queued_setLane found, contents_queued found]
    · exact contents_setLane atQueue notSource

theorem transfers_of_advances {number : Nat} (advances : Advances pool number next) :
    Transfers pool next := by
  cases advances with
  | giveBack found => exact .moves (moves_giveBack found _) rfl
  | goOn found => exact .stays (contents_setCall found) rfl
  | send found _ atLane sent => exact .moves (moves_send found atLane sent) rfl

theorem transfers_of_works {worker : Nat} (works : Works pool worker next) :
    Transfers pool next := by
  cases works with
  | receive found waiting received => exact .moves (moves_receive found waiting received) rfl
  | exit found waiting =>
      exact .stays (contents_setLane_same found rfl (by rw [waiting]; rfl)) rfl
  | refuse found holds =>
      exact .stays (contents_setLane_same found rfl (by rw [holds]; rfl)) rfl
  | accept found holds =>
      exact .stays (contents_setLane_same found rfl (by rw [holds]; rfl)) rfl
  | @answer lane stream found holds =>
      have left : WorkerStep.receiving.moving = ([] : List Stream) := rfl
      refine .moves (moves_leave found (by rw [holds]; rfl) left
        (Place.noConfusion : Place.refused ≠ .moving worker) ?_ List.map_append) rfl
      intro place notTarget
      cases place with
      | refused => exact absurd rfl notTarget
      | submitting => rfl
      | returned => rfl
      | queued other => rfl
      | moving other => rfl
      | handled => rfl
  | @handle lane stream found holds =>
      have left : (WorkerStep.handling ⟨pool.nextReqId, worker⟩).moving = ([] : List Stream) :=
        rfl
      refine .moves (moves_leave found (by rw [holds]; rfl) left
        (Place.noConfusion : Place.handled ≠ .moving worker) ?_ List.map_append) rfl
      intro place notTarget
      cases place with
      | handled => exact absurd rfl notTarget
      | submitting => rfl
      | returned => rfl
      | queued other => rfl
      | moving other => rfl
      | refused => rfl
  | finish found holds =>
      exact .stays (contents_setLane_same found rfl (by rw [holds]; rfl)) rfl

/-- The streams given to `submit` are those at some place. -/
def Tracked (pool : ThreadPool Stream) : Prop :=
  ∀ stream, stream ∈ pool.submitted ↔ ∃ place, stream ∈ pool.contents place

theorem submitted_of_transfers {stream : Stream} (transfers : Transfers pool next)
    (member : stream ∈ pool.submitted) : stream ∈ next.submitted := by
  cases transfers with
  | enters _ submitted =>
      rw [submitted]
      exact List.mem_append_left _ member
  | moves _ submitted => rwa [submitted]
  | stays _ submitted => rwa [submitted]

/-- Every stream given to `submit` is at one place. -/
structure Conserving (pool : ThreadPool Stream) : Prop where
  exclusive : Exclusive pool.contents
  tracked : pool.Tracked

theorem conserving_of_transfers (conserving : pool.Conserving)
    (transfers : Transfers pool next) : next.Conserving := by
  cases transfers with
  | @enters stream enters submitted =>
      refine ⟨enters.exclusive conserving.exclusive, fun other => ?_⟩
      rw [submitted, List.mem_append, List.mem_singleton, enters.exists_mem_iff,
        conserving.tracked other]
  | moves moves submitted =>
      refine ⟨moves.exclusive conserving.exclusive, fun other => ?_⟩
      rw [submitted, moves.exists_mem_iff, conserving.tracked other]
  | stays contents submitted =>
      refine ⟨by rw [contents]; exact conserving.exclusive, fun other => ?_⟩
      rw [submitted, contents, conserving.tracked other]

section

variable [DecidableEq Stream]

theorem transfers_of_enterSubmit {stream : Stream} (tracked : pool.Tracked)
    (taken : pool.enterSubmit stream = some next) : Transfers pool next := by
  unfold enterSubmit at taken
  split at taken
  · cases taken
  split at taken
  · split at taken
    case isTrue back =>
        cases taken
        obtain ⟨entry, entryMember, rfl⟩ := List.mem_map.mp back
        obtain ⟨found, before, after, _, atStream, split, erased⟩ :=
          List.exists_of_eraseP (p := fun other => decide (other.1 = entry.1)) entryMember
            (by simp)
        simp only [decide_eq_true_eq] at atStream
        refine .moves (show Moves entry.1 Place.returned .submitting _ _ from
          ⟨Place.noConfusion, ?_, ?_, ?_⟩) rfl
        · change (pool.returned.map Prod.fst).Perm (entry.1 :: (List.eraseP _ _).map Prod.fst)
          rw [erased, split, ← atStream, List.map_append, List.map_append]
          exact List.perm_middle
        · change (List.map _ (pool.calls ++ [_])).Perm _
          rw [List.map_append]
          exact List.perm_append_singleton _ _
        · intro place notSource notTarget
          cases place with
          | returned => exact absurd rfl notSource
          | submitting => exact absurd rfl notTarget
          | queued worker => rfl
          | moving worker => rfl
          | handled => rfl
          | refused => rfl
    case isFalse => cases taken
  case isFalse fresh =>
      cases taken
      refine .enters (show Enters stream Place.submitting _ _ from ⟨?_, ?_, ?_⟩) rfl
      · exact fun place member => fresh ((tracked stream).mpr ⟨place, member⟩)
      · change (List.map _ (pool.calls ++ [_])).Perm _
        rw [List.map_append]
        exact List.perm_append_singleton _ _
      · intro place notTarget
        cases place with
        | submitting => exact absurd rfl notTarget
        | returned => rfl
        | queued worker => rfl
        | moving worker => rfl
        | handled => rfl
        | refused => rfl

theorem transfers_of_step {action : PoolAction Stream} (tracked : pool.Tracked)
    (taken : pool.step action = some next) : Transfers pool next := by
  cases action with
  | submit stream => exact transfers_of_enterSubmit tracked taken
  | advance call => exact transfers_of_advances (advances_of_advance taken)
  | work worker => exact transfers_of_works (works_of_work taken)
  | setShuttingDown =>
      cases taken
      exact .stays rfl rfl
  | stopAccepting =>
      simp only [step, beginStop] at taken
      split at taken
      · cases taken
        exact .stays rfl rfl
      · cases taken
  | dropSender =>
      obtain ⟨worker, lane, rest, dropped⟩ := dropsSender_of_dropSender taken
      rw [dropped.result]
      exact .stays (contents_setLane_same dropped.found rfl rfl) rfl
  | stopped =>
      simp only [step, endStop] at taken
      split at taken
      · cases taken
        exact .stays rfl rfl
      · cases taken

end

/-! ## Request ids -/

/-- The streams that were handled got the next ids in turn. -/
structure Numbered (pool : ThreadPool Stream) : Prop where
  upcoming : pool.nextReqId.val = (pool.handled.length + 1) % u64Limit
  given : ∀ position entry, pool.handled[position]? = some entry →
    entry.2.reqId.val = (position + 1) % u64Limit

theorem numbered_of_works {worker : Nat} (numbered : pool.Numbered)
    (works : Works pool worker next) : next.Numbered := by
  cases works with
  | receive => exact ⟨numbered.upcoming, numbered.given⟩
  | exit => exact ⟨numbered.upcoming, numbered.given⟩
  | refuse => exact ⟨numbered.upcoming, numbered.given⟩
  | accept => exact ⟨numbered.upcoming, numbered.given⟩
  | answer => exact ⟨numbered.upcoming, numbered.given⟩
  | finish => exact ⟨numbered.upcoming, numbered.given⟩
  | @handle lane stream =>
      constructor
      · rw [List.length_append, List.length_singleton, Fin.val_add, numbered.upcoming]
        rw [Nat.mod_add_mod]
        rfl
      · intro position entry found
        rcases Nat.lt_or_ge position pool.handled.length with old | last
        · rw [List.getElem?_append_left old] at found
          exact numbered.given position entry found
        · have bound := (List.getElem?_eq_some_iff.mp found).1
          rw [List.length_append, List.length_singleton] at bound
          obtain rfl : position = pool.handled.length := by omega
          rw [List.getElem?_concat_length, Option.some.injEq] at found
          rw [← found]
          exact numbered.upcoming

theorem numbered_of_steps (numbered : pool.Numbered) (steps : Steps pool next) :
    next.Numbered := by
  cases steps with
  | enter => exact ⟨numbered.upcoming, numbered.given⟩
  | advance advances => cases advances <;> exact ⟨numbered.upcoming, numbered.given⟩
  | work works => exact numbered_of_works numbered works
  | signal => exact ⟨numbered.upcoming, numbered.given⟩
  | beginStop => exact ⟨numbered.upcoming, numbered.given⟩
  | dropSender dropped =>
      rw [dropped.result]
      exact ⟨numbered.upcoming, numbered.given⟩
  | endStop => exact ⟨numbered.upcoming, numbered.given⟩

/-- No id is given twice before the counter comes round. -/
theorem Numbered.distinct (numbered : pool.Numbered) :
    ((pool.handled.take u64Limit).map (·.2.reqId)).Nodup := by
  rw [List.nodup_iff_getElem?_ne_getElem?]
  intro first second before bound same
  rw [List.length_map, List.length_take] at bound
  have inRange : second < u64Limit := by omega
  have inHandled : second < pool.handled.length := by omega
  have ids : ∀ position, position ≤ second →
      ((pool.handled.take u64Limit).map (·.2.reqId))[position]?.map Fin.val =
        some ((position + 1) % u64Limit) := by
    intro position atMost
    have found : pool.handled[position]? = some (pool.handled[position]) :=
      List.getElem?_eq_getElem (by omega)
    rw [List.getElem?_map, List.getElem?_take_of_lt (by omega), found]
    exact congrArg some (numbered.given position _ found)
  have equal := ids first (Nat.le_of_lt before)
  rw [same, ids second le_rfl, Option.some.injEq] at equal
  have limit : u64Limit = 2 ^ 64 := rfl
  rw [limit] at equal inRange
  omega

/-! ## Streams received late -/

/-- The streams received after the flag was set are not on their way to
`handle_connection`. -/
structure LateRefused (pool : ThreadPool Stream) : Prop where
  flagged : ∀ stream ∈ pool.late, pool.shuttingDown = true
  notNumbering : ∀ stream ∈ pool.late, ∀ (worker : Nat) (lane : Lane Stream),
    pool.lanes[worker]? = some lane → lane.worker ≠ .numbering stream
  notHandled : ∀ stream ∈ pool.late, stream ∉ pool.contents .handled

/-- A change inside a lane that gives no stream the way to
`handle_connection`. -/
theorem lateRefused_setLane {worker : Nat} {lane : Lane Stream} (late : pool.LateRefused)
    (sameLate : next.late = pool.late)
    (sameLanes : next.lanes = (pool.setLane worker lane).lanes)
    (sameHandled : next.contents .handled = pool.contents .handled)
    (sameFlag : next.shuttingDown = pool.shuttingDown)
    (harmless : ∀ stream ∈ pool.late, lane.worker ≠ .numbering stream) :
    next.LateRefused := by
  refine ⟨by rw [sameLate, sameFlag]; exact late.flagged, ?_,
    by rw [sameLate, sameHandled]; exact late.notHandled⟩
  rw [sameLate, sameLanes]
  intro stream isLate other found atOther
  rcases getElem?_setLane atOther with ⟨_, rfl⟩ | ⟨_, before⟩
  · exact harmless stream isLate
  · exact late.notNumbering stream isLate other found before

theorem lateRefused_of_works {worker : Nat} (exclusive : Exclusive pool.contents)
    (late : pool.LateRefused) (works : Works pool worker next) : next.LateRefused := by
  cases works with
  | @receive lane stream queue found waiting received =>
      have queued : stream ∈ pool.contents (.queued worker) := by
        rw [contents_queued found, received.queue]
        exact List.mem_cons_self
      by_cases flag : pool.shuttingDown = true
      · have isLate : ∀ other, other ∈ pool.late ++ [stream] →
            other ∈ pool.late ∨ other = stream := by simp
        rw [if_pos flag]
        refine ⟨fun _ _ => flag, fun other member number lane' atNumber numbering => ?_,
          fun other member handled => ?_⟩
        · rcases getElem?_setLane atNumber with ⟨_, rfl⟩ | ⟨_, before⟩
          · cases numbering
          · rcases isLate other member with old | rfl
            · exact late.notNumbering other old number lane' before numbering
            · have moving : other ∈ pool.contents (.moving number) := by
                rw [contents_moving before, numbering]
                exact List.mem_singleton_self other
              cases exclusive.onePlace queued moving
        · rcases isLate other member with old | rfl
          · exact late.notHandled other old handled
          · have passed : other ∈ pool.contents .handled := handled
            cases exclusive.onePlace queued passed
      · rw [if_neg flag]
        exact lateRefused_setLane late rfl rfl rfl rfl fun _ _ => nofun
  | exit found => exact lateRefused_setLane late rfl rfl rfl rfl fun _ _ => nofun
  | refuse found => exact lateRefused_setLane late rfl rfl rfl rfl fun _ _ => nofun
  | accept found holds flag =>
      refine lateRefused_setLane late rfl rfl rfl rfl fun stream isLate => ?_
      have flagged := late.flagged stream isLate
      rw [flag] at flagged
      cases flagged
  | answer found => exact lateRefused_setLane late rfl rfl rfl rfl fun _ _ => nofun
  | @handle lane stream found holds =>
      refine ⟨late.flagged, fun other isLate number lane' atNumber => ?_,
        fun other isLate handled => ?_⟩
      · rcases getElem?_setLane atNumber with ⟨_, rfl⟩ | ⟨_, before⟩
        · exact nofun
        · exact late.notNumbering other isLate number lane' before
      · simp only [contents, List.map_append, List.map_cons, List.map_nil, List.mem_append,
          List.mem_singleton] at handled
        rcases handled with old | rfl
        · exact late.notHandled other isLate old
        · exact late.notNumbering other isLate worker lane found holds
  | finish found => exact lateRefused_setLane late rfl rfl rfl rfl fun _ _ => nofun

theorem lateRefused_of_steps (exclusive : Exclusive pool.contents) (late : pool.LateRefused)
    (steps : Steps pool next) : next.LateRefused := by
  cases steps with
  | enter => exact ⟨late.flagged, late.notNumbering, late.notHandled⟩
  | advance advances =>
      cases advances with
      | giveBack => exact ⟨late.flagged, late.notNumbering, late.notHandled⟩
      | goOn => exact ⟨late.flagged, late.notNumbering, late.notHandled⟩
      | @send call worker lane _ _ _ atLane =>
          exact lateRefused_setLane late rfl rfl rfl rfl fun stream isLate =>
            late.notNumbering stream isLate worker lane atLane
  | work works => exact lateRefused_of_works exclusive late works
  | signal => exact ⟨fun _ _ => rfl, late.notNumbering, late.notHandled⟩
  | beginStop => exact ⟨fun _ _ => rfl, late.notNumbering, late.notHandled⟩
  | @dropSender _ worker lane _ dropped =>
      obtain ⟨_, _, found, rfl⟩ := dropped
      exact lateRefused_setLane late rfl rfl rfl rfl fun stream isLate =>
        late.notNumbering stream isLate worker lane found
  | endStop => exact ⟨late.flagged, late.notNumbering, late.notHandled⟩

theorem Wired.length_queue_le {capacity : Nat} (wired : pool.Wired capacity)
    (worker : Nat) : (pool.contents (.queued worker)).length ≤ capacity := by
  simp only [contents]
  split
  case h_1 lane found =>
      rw [← (wired found).capacity]
      exact lane.queue.bounded
  case h_2 => exact Nat.zero_le capacity

theorem Wired.queue_eq_nil {capacity : Nat} (wired : pool.Wired capacity)
    (gone : ∀ lane ∈ pool.lanes, lane.worker = .exited) (worker : Nat) :
    pool.contents (.queued worker) = [] := by
  simp only [contents]
  split
  case h_1 lane found =>
      exact ((wired found).drained (gone lane (List.mem_of_getElem? found))).1
  case h_2 => rfl

/-! ## Runs -/

/-- The streams that left the pool left it in one of the ways of the source. -/
structure Disposed (pool : ThreadPool Stream) : Prop where
  returned : ∀ entry ∈ pool.returned,
    entry.2 = .shutdownInProgress ∨ entry.2 = .poolFull
  refused : ∀ entry ∈ pool.refused, entry.2 = serviceUnavailable "shutting down"

theorem disposed_of_steps (disposed : pool.Disposed) (steps : Steps pool next) :
    next.Disposed := by
  cases steps with
  | enter _ kept =>
      exact ⟨fun entry member => disposed.returned entry (kept entry member),
        disposed.refused⟩
  | advance advances =>
      cases advances with
      | giveBack found reported =>
          refine ⟨fun entry member => ?_, disposed.refused⟩
          rcases List.mem_append.mp member with old | new
          · exact disposed.returned entry old
          · rw [List.mem_singleton.mp new]
            exact reported
      | goOn => exact ⟨disposed.returned, disposed.refused⟩
      | send => exact ⟨disposed.returned, disposed.refused⟩
  | work works =>
      cases works with
      | answer =>
          refine ⟨disposed.returned, fun entry member => ?_⟩
          rcases List.mem_append.mp member with old | new
          · exact disposed.refused entry old
          · rw [List.mem_singleton.mp new]
      | receive => exact ⟨disposed.returned, disposed.refused⟩
      | exit => exact ⟨disposed.returned, disposed.refused⟩
      | refuse => exact ⟨disposed.returned, disposed.refused⟩
      | accept => exact ⟨disposed.returned, disposed.refused⟩
      | handle => exact ⟨disposed.returned, disposed.refused⟩
      | finish => exact ⟨disposed.returned, disposed.refused⟩
  | signal => exact ⟨disposed.returned, disposed.refused⟩
  | beginStop => exact ⟨disposed.returned, disposed.refused⟩
  | dropSender dropped =>
      rw [dropped.result]
      exact ⟨disposed.returned, disposed.refused⟩
  | endStop => exact ⟨disposed.returned, disposed.refused⟩

/-- What holds in every state of a pool. -/
structure Invariant (capacity : Nat) (pool : ThreadPool Stream) : Prop where
  conserving : pool.Conserving
  wired : pool.Wired capacity
  dispatching : pool.Dispatching
  numbered : pool.Numbered
  late : pool.LateRefused
  disposed : pool.Disposed

section

variable {config : PoolConfig} {positive : 0 < config.perWorkerQueue.val}
  {shuttingDown : Bool}

theorem contents_spawn (place : Place) :
    (spawn config positive shuttingDown : ThreadPool Stream).contents place = [] := by
  cases place with
  | queued worker =>
      simp only [contents]
      split
      case h_1 lane found => rw [(getElem?_spawn found).2]; rfl
      case h_2 => rfl
  | moving worker =>
      simp only [contents]
      split
      case h_1 lane found => rw [(getElem?_spawn found).2]; rfl
      case h_2 => rfl
  | submitting => rfl
  | returned => rfl
  | handled => rfl
  | refused => rfl

theorem invariant_spawn :
    (spawn config positive shuttingDown : ThreadPool Stream).Invariant
      config.perWorkerQueue.val where
  conserving :=
    { exclusive :=
        { once := fun place => by rw [contents_spawn]; exact List.nodup_nil
          onePlace := fun {item first second} inFirst => by
            rw [contents_spawn] at inFirst
            cases inFirst }
      tracked := fun stream => by
        refine iff_of_false List.not_mem_nil fun ⟨place, member⟩ => ?_
        rw [contents_spawn] at member
        cases member }
  wired := wired_spawn
  dispatching := dispatching_spawn
  numbered := ⟨rfl, nofun⟩
  late := ⟨nofun, nofun, nofun⟩
  disposed := ⟨nofun, nofun⟩

end

section

variable [DecidableEq Stream]

theorem invariant_step (capacity : Nat) :
    machine.Preserves (Invariant capacity : ThreadPool Stream → Prop) := by
  intro pool action next invariant taken
  have steps := steps_of_step taken
  exact
    { conserving := conserving_of_transfers invariant.conserving
        (transfers_of_step invariant.conserving.tracked taken)
      wired := wired_of_steps invariant.wired steps
      dispatching := dispatching_of_steps invariant.dispatching steps
      numbered := numbered_of_steps invariant.numbered steps
      late := lateRefused_of_steps invariant.conserving.exclusive invariant.late steps
      disposed := disposed_of_steps invariant.disposed steps }

theorem submitted_of_enterSubmit {stream : Stream}
    (taken : pool.enterSubmit stream = some next) : stream ∈ next.submitted := by
  unfold enterSubmit at taken
  split at taken
  · cases taken
  split at taken
  case isTrue known =>
      split at taken
      · cases taken
        exact known
      · cases taken
  case isFalse =>
      cases taken
      exact List.mem_append_right _ (List.mem_singleton_self stream)

/-- In a run every stream given to `submit` is known to the pool. -/
theorem submitted_of_run {start : ThreadPool Stream} {actions : List (PoolAction Stream)}
    {capacity : Nat} (invariant : start.Invariant capacity)
    (run : machine.run start actions = some pool) :
    pool.Invariant capacity ∧ ∀ stream, .submit stream ∈ actions → stream ∈ pool.submitted := by
  refine Machine.run_induction (fun actions pool => pool.Invariant capacity ∧
    ∀ stream, .submit stream ∈ actions → stream ∈ pool.submitted) ⟨invariant, nofun⟩ ?_ run
  intro earlier pool action next ⟨held, known⟩ taken
  refine ⟨invariant_step capacity held taken, fun stream member => ?_⟩
  have transfers := transfers_of_step held.conserving.tracked taken
  rcases List.mem_append.mp member with before | now
  · exact submitted_of_transfers transfers (known stream before)
  · rw [List.mem_singleton] at now
    rw [← now] at taken
    exact submitted_of_enterSubmit taken

/-- What holds after the actions: each stream given to `submit` is at one
place, once; queues are bounded; ids of the first `2 ^ 64` handled streams are
distinct; streams received after the flag was set are not handled; and once
all workers have gone the queues are empty. -/
structure Conserves (config : PoolConfig) (actions : List (PoolAction Stream))
    (pool : ThreadPool Stream) : Prop where
  onePlace : ∀ stream, .submit stream ∈ actions →
    ∃ place, (pool.contents place).count stream = 1 ∧
      ∀ other, other ≠ place → stream ∉ pool.contents other
  bounded : ∀ worker,
    (pool.contents (.queued worker)).length ≤ config.perWorkerQueue.val
  distinctIds : ((pool.handled.take u64Limit).map (·.2.reqId)).Nodup
  lateRefused : ∀ stream ∈ pool.late, stream ∉ pool.contents .handled
  returned : ∀ entry ∈ pool.returned,
    entry.2 = .shutdownInProgress ∨ entry.2 = .poolFull
  refused : ∀ entry ∈ pool.refused, entry.2 = serviceUnavailable "shutting down"
  drained : (∀ lane ∈ pool.lanes, lane.worker = .exited) →
    ∀ worker, pool.contents (.queued worker) = []

/-- Connections are conserved in every run of a pool. -/
theorem conserves_of_run {config : PoolConfig} {shuttingDown : Bool}
    {logger : MzaniResult Unit} {start : ThreadPool Stream}
    {actions : List (PoolAction Stream)}
    (built : new config shuttingDown logger = .ok start)
    (run : machine.run start actions = some pool) : pool.Conserves config actions := by
  obtain ⟨positive, rfl⟩ := new_ok built
  obtain ⟨invariant, known⟩ := submitted_of_run invariant_spawn run
  exact
    { onePlace := fun stream member =>
        invariant.conserving.exclusive.unique_place
          ((invariant.conserving.tracked stream).mp (known stream member))
      bounded := invariant.wired.length_queue_le
      distinctIds := invariant.numbered.distinct
      lateRefused := invariant.late.notHandled
      returned := invariant.disposed.returned
      refused := invariant.disposed.refused
      drained := invariant.wired.queue_eq_nil }

/-- No call of `submit` gets stuck. -/
theorem advance_of_run {config : PoolConfig} {shuttingDown : Bool}
    {logger : MzaniResult Unit} {start : ThreadPool Stream}
    {actions : List (PoolAction Stream)} {number : Nat} {call : SubmitCall Stream}
    (built : new config shuttingDown logger = .ok start)
    (run : machine.run start actions = some pool)
    (found : pool.calls[number]? = some call) :
    ∃ next, pool.advance number = some next := by
  obtain ⟨positive, rfl⟩ := new_ok built
  obtain ⟨invariant, _⟩ := submitted_of_run invariant_spawn run
  exact advance_enabled invariant.dispatching found

end

/-- One worker with room for one stream. -/
def oneWorker : PoolConfig := { workers := 1, perWorkerQueue := 1 }

/-- Three streams: the first is handled, the second is received after the flag
is set, and the third finds the queue full. -/
def busyDay : List (PoolAction Nat) :=
  [.submit 1, .advance 0, .advance 0, .advance 0, .work 0, .work 0, .work 0,
    .submit 2, .advance 0, .advance 0, .advance 0,
    .submit 3, .advance 0, .advance 0, .advance 0,
    .stopAccepting, .work 0, .work 0, .work 0, .dropSender, .work 0, .stopped, .work 0]

theorem conserves_busyDay :
    ∃ start pool, new oneWorker false (.ok ()) = .ok start ∧
      machine.run start busyDay = some pool ∧
      pool.handled = [(1, ⟨1, 0⟩)] ∧ pool.returned = [(3, .poolFull)] ∧
      pool.late = [2] ∧ pool.Conserves oneWorker busyDay := by
  obtain ⟨start, built⟩ : ∃ start : ThreadPool Nat,
    new oneWorker false (.ok ()) = .ok start := ⟨_, rfl⟩
  obtain ⟨pool, run, handled, returned, late⟩ : ∃ pool,
      machine.run start busyDay = some pool ∧ pool.handled = [(1, ⟨1, 0⟩)] ∧
        pool.returned = [(3, .poolFull)] ∧ pool.late = [2] := by
    cases built
    exact ⟨_, rfl, rfl, rfl, rfl⟩
  exact ⟨start, pool, built, run, handled, returned, late, conserves_of_run built run⟩

end ThreadPool

end Mzani
