import Mzani.Core.Pool

/-!
# Queues, senders and workers

The queues of a reachable pool: each has the sender that the pool keeps for it
and no other, a receiver as long as its worker runs, and is empty when its
worker has gone.
-/

namespace Mzani

open Support

namespace ThreadPool

variable {Stream : Type} {pool next : ThreadPool Stream}

/-- What holds of a lane whose queue has so many senders. -/
structure SoundLane (capacity senders : Nat) (lane : Lane Stream) : Prop where
  capacity : lane.queue.capacity = capacity
  senders : lane.queue.senders = senders
  receiver : lane.queue.receiver = false ↔ lane.worker = .exited
  drained : lane.worker = .exited → lane.queue.queue = [] ∧ lane.queue.senders = 0

/-- Every lane is sound, with the senders in `connection_txs`. -/
def Wired (capacity : Nat) (pool : ThreadPool Stream) : Prop :=
  ∀ ⦃worker lane⦄, pool.lanes[worker]? = some lane →
    SoundLane capacity (pool.connectionTxs.count worker) lane

variable {capacity : Nat}

theorem lanes_setLane {worker : Nat} {lane old : Lane Stream}
    (found : pool.lanes[worker]? = some old) :
    (pool.setLane worker lane).lanes[worker]? = some lane := by
  have bound := (List.getElem?_eq_some_iff.mp found).1
  simp [setLane, bound]

theorem getElem?_setLane {worker other : Nat} {lane found : Lane Stream}
    (atOther : (pool.setLane worker lane).lanes[other]? = some found) :
    (other = worker ∧ found = lane) ∨ (other ≠ worker ∧ pool.lanes[other]? = some found) := by
  by_cases same : other = worker
  · subst same
    have bound := (List.getElem?_eq_some_iff.mp atOther).1
    rw [setLane, List.length_set] at bound
    simp only [setLane, List.getElem?_set_self bound, Option.some.injEq] at atOther
    exact .inl ⟨rfl, atOther.symm⟩
  · rw [setLane, List.getElem?_set_ne (Ne.symm same)] at atOther
    exact .inr ⟨same, atOther⟩

/-- A change inside one lane. -/
theorem wired_setLane {worker : Nat} {lane : Lane Stream} (wired : pool.Wired capacity)
    (sameSenders : next.connectionTxs = pool.connectionTxs)
    (sameLanes : next.lanes = (pool.setLane worker lane).lanes)
    (sound : SoundLane capacity (pool.connectionTxs.count worker) lane) :
    next.Wired capacity := by
  intro other found atOther
  rw [sameLanes] at atOther
  rw [sameSenders]
  rcases getElem?_setLane atOther with ⟨rfl, rfl⟩ | ⟨_, before⟩
  · exact sound
  · exact wired before

theorem wired_of_advances {number : Nat} (wired : pool.Wired capacity)
    (advances : Advances pool number next) : next.Wired capacity := by
  cases advances with
  | giveBack => exact wired
  | goOn => exact wired
  | @send call worker lane queue found chosen atLane sent =>
      have sound := wired atLane
      have running : lane.worker ≠ .exited := fun exited => by
        have gone := sound.receiver.mpr exited
        rw [sent.receiver] at gone
        cases gone
      refine wired_setLane wired rfl rfl ⟨?_, ?_, ?_, fun exited => absurd exited running⟩
      · rw [sent.sameCapacity, sound.capacity]
      · rw [sent.sameSenders, sound.senders]
      · rw [sent.sameReceiver]
        exact sound.receiver

/-- A running worker that stays in its loop with its queue. -/
theorem soundLane_setWorker {senders : Nat} {lane : Lane Stream} {step : WorkerStep Stream}
    (sound : SoundLane capacity senders lane) (running : lane.worker ≠ .exited)
    (stays : step ≠ .exited) : SoundLane capacity senders { lane with worker := step } where
  capacity := sound.capacity
  senders := sound.senders
  receiver := ⟨fun gone => absurd (sound.receiver.mp gone) running,
    fun exited => absurd exited stays⟩
  drained := fun exited => absurd exited stays

theorem running_of_holds {lane : Lane Stream} {step : WorkerStep Stream}
    (holds : lane.worker = step) (running : step ≠ .exited) : lane.worker ≠ .exited := by
  rw [holds]
  exact running

theorem wired_of_works {worker : Nat} (wired : pool.Wired capacity)
    (works : Works pool worker next) : next.Wired capacity := by
  cases works with
  | @receive lane stream queue found waiting received =>
      have sound := wired found
      have running := running_of_holds waiting nofun
      refine wired_setLane wired rfl rfl ⟨?_, ?_, ⟨fun gone => ?_, nofun⟩, nofun⟩
      · rw [received.sameCapacity, sound.capacity]
      · rw [received.sameSenders, sound.senders]
      · rw [received.sameReceiver] at gone
        exact absurd (sound.receiver.mp gone) running
  | exit found waiting empty gone =>
      have sound := wired found
      exact wired_setLane wired rfl rfl
        ⟨sound.capacity, sound.senders, iff_of_true rfl rfl, fun _ => ⟨empty, gone⟩⟩
  | refuse found holds =>
      exact wired_setLane wired rfl rfl
        (soundLane_setWorker (wired found) (running_of_holds holds nofun) nofun)
  | accept found holds =>
      exact wired_setLane wired rfl rfl
        (soundLane_setWorker (wired found) (running_of_holds holds nofun) nofun)
  | answer found holds =>
      exact wired_setLane wired rfl rfl
        (soundLane_setWorker (wired found) (running_of_holds holds nofun) nofun)
  | handle found holds =>
      exact wired_setLane wired rfl rfl
        (soundLane_setWorker (wired found) (running_of_holds holds nofun) nofun)
  | finish found holds =>
      exact wired_setLane wired rfl rfl
        (soundLane_setWorker (wired found) (running_of_holds holds nofun) nofun)

theorem wired_of_dropsSender {worker : Nat} {lane : Lane Stream} {rest : List Nat}
    (wired : pool.Wired capacity) (dropped : DropsSender pool next worker lane rest) :
    next.Wired capacity := by
  obtain ⟨_, senders, found, rfl⟩ := dropped
  intro other lane' atOther
  rcases getElem?_setLane atOther with ⟨rfl, rfl⟩ | ⟨different, before⟩
  · have sound := wired found
    have counted := sound.senders
    rw [senders, List.count_cons_self] at counted
    refine ⟨sound.capacity, ?_, sound.receiver, fun exited => ?_⟩
    · change lane.queue.senders - 1 = _
      rw [counted, Nat.add_sub_cancel]
    · have none := (sound.drained exited).2
      omega
  · have sound := wired before
    rwa [senders, List.count_cons_of_ne (Ne.symm different)] at sound

theorem wired_of_steps (wired : pool.Wired capacity) (steps : Steps pool next) :
    next.Wired capacity := by
  cases steps with
  | enter => exact wired
  | advance advances => exact wired_of_advances wired advances
  | work works => exact wired_of_works wired works
  | signal => exact wired
  | beginStop => exact wired
  | dropSender dropped => exact wired_of_dropsSender wired dropped
  | endStop => exact wired

/-! ## Calls of `submit` do not get stuck -/

/-- No call is on while the pool is borrowed by `stop_accepting`, the chosen
worker has a sender, and senders belong to workers. -/
structure Dispatching (pool : ThreadPool Stream) : Prop where
  idle : pool.stopping = true → pool.calls = []
  chosen : ∀ call ∈ pool.calls, ∀ index, call.step = .dispatched index →
    index < pool.connectionTxs.length
  workers : ∀ worker ∈ pool.connectionTxs, worker < pool.lanes.length

theorem dispatching_of_advances {number : Nat} (dispatching : pool.Dispatching)
    (advances : Advances pool number next) : next.Dispatching := by
  cases advances with
  | @giveBack call error found =>
      refine ⟨fun stopping => ?_, fun call member => ?_, dispatching.workers⟩
      · simp [giveBack, endCall, dispatching.idle stopping]
      · exact dispatching.chosen call (List.mem_of_mem_eraseIdx member)
  | @goOn call step dispatchIndex found dispatched =>
      refine ⟨fun stopping => ?_, fun other member => ?_, dispatching.workers⟩
      · simp [setCall, dispatching.idle stopping]
      · rcases List.mem_or_eq_of_mem_set member with before | rfl
        · exact dispatching.chosen other before
        · exact dispatched
  | @send call worker lane queue found _ atLane sent =>
      refine ⟨fun stopping => ?_, fun call member => ?_, fun worker member => ?_⟩
      · change (pool.calls.eraseIdx number) = []
        rw [dispatching.idle stopping]
        rfl
      · exact dispatching.chosen call (List.mem_of_mem_eraseIdx member)
      · change worker < (pool.lanes.set _ _).length
        rw [List.length_set]
        exact dispatching.workers worker member

theorem dispatching_setLane {worker : Nat} {lane : Lane Stream}
    (dispatching : pool.Dispatching) (sameSenders : next.connectionTxs = pool.connectionTxs)
    (sameLanes : next.lanes = (pool.setLane worker lane).lanes)
    (sameCalls : next.calls = pool.calls) (sameStopping : next.stopping = pool.stopping) :
    next.Dispatching := by
  refine ⟨?_, ?_, ?_⟩
  · rw [sameStopping, sameCalls]
    exact dispatching.idle
  · rw [sameCalls, sameSenders]
    exact dispatching.chosen
  · rw [sameSenders, sameLanes, setLane, List.length_set]
    exact dispatching.workers

theorem dispatching_of_steps (dispatching : pool.Dispatching) (steps : Steps pool next) :
    next.Dispatching := by
  cases steps with
  | enter notStopping =>
      refine ⟨fun stopping => ?_, fun call member index dispatched => ?_,
        dispatching.workers⟩
      · rw [notStopping] at stopping
        cases stopping
      · rcases List.mem_append.mp member with before | new
        · exact dispatching.chosen call before index dispatched
        · rw [List.mem_singleton.mp new] at dispatched
          cases dispatched
  | advance advances => exact dispatching_of_advances dispatching advances
  | work works =>
      cases works <;> exact dispatching_setLane dispatching rfl rfl rfl rfl
  | signal => exact ⟨dispatching.idle, dispatching.chosen, dispatching.workers⟩
  | beginStop free =>
      exact ⟨fun _ => free, dispatching.chosen, dispatching.workers⟩
  | dropSender dropped =>
      obtain ⟨stopping, senders, found, rfl⟩ := dropped
      have free := dispatching.idle stopping
      refine ⟨fun _ => free, fun call member => ?_, fun worker member => ?_⟩
      · change call ∈ pool.calls at member
        rw [free] at member
        cases member
      · change worker < (pool.lanes.set _ _).length
        rw [List.length_set]
        exact dispatching.workers worker (by rw [senders]; exact List.mem_cons_of_mem _ member)
  | endStop =>
      exact ⟨nofun, dispatching.chosen, dispatching.workers⟩

/-- A call of `submit` always can go on: it panics on no index. -/
theorem advance_enabled {number : Nat} {call : SubmitCall Stream}
    (dispatching : pool.Dispatching) (found : pool.calls[number]? = some call) :
    ∃ next, pool.advance number = some next := by
  unfold advance
  rw [found]
  dsimp only
  split
  · split <;> exact ⟨_, rfl⟩
  · split <;> exact ⟨_, rfl⟩
  case h_3 index dispatched =>
      have bound := dispatching.chosen call (List.mem_of_getElem? found) index dispatched
      have inLanes := dispatching.workers _ (List.getElem_mem bound)
      rw [List.getElem?_eq_getElem bound]
      dsimp only
      rw [List.getElem?_eq_getElem inLanes]
      dsimp only
      split <;> exact ⟨_, rfl⟩

/-! ## The spawned pool -/

section

variable {config : PoolConfig} {positive : 0 < config.perWorkerQueue.val}
  {shuttingDown : Bool}

theorem getElem?_spawn {worker : Nat} {lane : Lane Stream}
    (found : (spawn config positive shuttingDown).lanes[worker]? = some lane) :
    worker < config.workers.val ∧
      lane =
        { queue := Channel.sync config.perWorkerQueue.val positive, worker := .receiving } := by
  obtain ⟨bound, rfl⟩ := List.getElem?_eq_some_iff.mp found
  rw [spawn, List.length_replicate] at bound
  exact ⟨bound, List.getElem_replicate _⟩

theorem wired_spawn :
    (spawn config positive shuttingDown : ThreadPool Stream).Wired
      config.perWorkerQueue.val := by
  intro worker lane found
  obtain ⟨bound, rfl⟩ := getElem?_spawn found
  refine ⟨rfl, ?_, ⟨nofun, nofun⟩, nofun⟩
  exact (List.count_eq_one_of_mem List.nodup_range (List.mem_range.mpr bound)).symm

theorem dispatching_spawn :
    (spawn config positive shuttingDown : ThreadPool Stream).Dispatching where
  idle := nofun
  chosen := nofun
  workers := by
    intro worker member
    rw [spawn, List.length_replicate]
    exact List.mem_range.mp member

end

end ThreadPool

end Mzani
