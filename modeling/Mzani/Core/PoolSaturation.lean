import Mzani.Core.PoolConservation

/-!
# Saturation

A call of `submit` tries one queue, the one that its ticket picks.  It turns
connections away only when all queues are full exactly as long as the picked
queue has room or no queue has.
-/

namespace Mzani

open Support

namespace ThreadPool

variable {Stream : Type} {pool next : ThreadPool Stream} {config : PoolConfig}

/-- Every worker's queue holds as many connections as it may. -/
def Saturated (config : PoolConfig) (pool : ThreadPool Stream) : Prop :=
  ∀ lane ∈ pool.lanes, lane.queue.queue.length = config.perWorkerQueue.val

/-- Not shutting down, and all workers are alive. -/
structure Serving (pool : ThreadPool Stream) : Prop where
  notShuttingDown : pool.shuttingDown = false
  alive : ∀ lane ∈ pool.lanes, lane.worker ≠ .exited

/-- The next step of the call returns `PoolFull`. -/
def TurnsAway (pool : ThreadPool Stream) (number : Nat) : Prop :=
  ∃ call, pool.calls[number]? = some call ∧
    pool.advance number = some (pool.giveBack number call.stream .poolFull)

/-- The queue that the ticket of the call has picked has room, or no queue
has. -/
def PicksRoom (config : PoolConfig) (pool : ThreadPool Stream) (number : Nat) : Prop :=
  ∀ call index worker lane, pool.calls[number]? = some call →
    call.step = .dispatched index → pool.connectionTxs[index]? = some worker →
    pool.lanes[worker]? = some lane →
    lane.queue.queue.length < config.perWorkerQueue.val ∨ pool.Saturated config

/-! ## Senders of an open pool -/

/-- Until the flag is set each worker has its sender. -/
structure Staffed (config : PoolConfig) (pool : ThreadPool Stream) : Prop where
  stops : pool.stopping = true → pool.shuttingDown = true
  senders : pool.shuttingDown = false → pool.connectionTxs = List.range config.workers.val
  lanes : pool.lanes.length = config.workers.val

theorem staffed_spawn {positive : 0 < config.perWorkerQueue.val} {shuttingDown : Bool} :
    (spawn config positive shuttingDown : ThreadPool Stream).Staffed config := by
  constructor
  · intro stopping
    cases stopping
  · intro _
    rfl
  · exact List.length_replicate

/-- A step that leaves the flags and the senders alone. -/
theorem Staffed.keep (staffed : pool.Staffed config)
    (stopping : next.stopping = pool.stopping)
    (shuttingDown : next.shuttingDown = pool.shuttingDown)
    (senders : next.connectionTxs = pool.connectionTxs)
    (lanes : next.lanes.length = pool.lanes.length) : next.Staffed config := by
  constructor
  · rw [stopping, shuttingDown]
    exact staffed.stops
  · rw [shuttingDown, senders]
    exact staffed.senders
  · rw [lanes]
    exact staffed.lanes

theorem Staffed.steps (staffed : pool.Staffed config) (steps : Steps pool next) :
    next.Staffed config := by
  cases steps with
  | enter => exact staffed.keep rfl rfl rfl rfl
  | advance advances =>
      cases advances with
      | giveBack => exact staffed.keep rfl rfl rfl rfl
      | goOn => exact staffed.keep rfl rfl rfl rfl
      | send => exact staffed.keep rfl rfl rfl List.length_set
  | work works => cases works <;> exact staffed.keep rfl rfl rfl List.length_set
  | signal => exact ⟨fun _ => rfl, nofun, staffed.lanes⟩
  | beginStop => exact ⟨fun _ => rfl, nofun, staffed.lanes⟩
  | dropSender dropped =>
      obtain ⟨stopping, _, _, rfl⟩ := dropped
      have closed := staffed.stops stopping
      constructor
      · intro _
        exact closed
      · intro still
        change pool.shuttingDown = false at still
        rw [closed] at still
        cases still
      · exact List.length_set.trans staffed.lanes
  | endStop => exact ⟨nofun, staffed.senders, staffed.lanes⟩

theorem staffed_of_run [DecidableEq Stream] {shuttingDown : Bool}
    {positive : 0 < config.perWorkerQueue.val} {actions : List (PoolAction Stream)}
    (run : machine.run (spawn config positive shuttingDown) actions = some pool) :
    pool.Staffed config := by
  have preserves : (machine : Machine (ThreadPool Stream) (PoolAction Stream)).Preserves
      (Staffed config) := by
    intro pool action next staffed taken
    exact staffed.steps (steps_of_step taken)
  exact preserves.run staffed_spawn run

/-! ## Connections turned away -/

theorem giveBack_ne {number : Nat} {call : SubmitCall Stream} {error : MzaniError}
    (same : next.returned = pool.returned) :
    next ≠ pool.giveBack number call.stream error := by
  intro equal
  have lengths := congrArg (fun pool => pool.returned.length) equal
  simp [giveBack, same] at lengths

theorem giveBack_inj {number : Nat} {stream : Stream} {error other : MzaniError}
    (equal : pool.giveBack number stream error = pool.giveBack number stream other) :
    error = other := by
  have returned := congrArg ThreadPool.returned equal
  simpa [giveBack] using returned

/-- What a call needs to return `PoolFull`. -/
def FindsFull (config : PoolConfig) (pool : ThreadPool Stream) (number : Nat) : Prop :=
  ∃ call index worker lane, pool.calls[number]? = some call ∧
    call.step = .dispatched index ∧ pool.connectionTxs[index]? = some worker ∧
    pool.lanes[worker]? = some lane ∧
    lane.queue.queue.length = config.perWorkerQueue.val

variable {number : Nat}

/-- A call of `submit` on a serving pool turns its connection away exactly if
the picked queue is full. -/
theorem turnsAway_iff_findsFull (serving : pool.Serving) (staffed : pool.Staffed config)
    (wired : pool.Wired config.perWorkerQueue.val) (workers : config.workers.val ≠ 0) :
    pool.TurnsAway number ↔ pool.FindsFull config number := by
  have senders := staffed.senders serving.notShuttingDown
  have nonempty : pool.connectionTxs ≠ [] := by
    rw [senders]
    simpa using workers
  constructor
  · rintro ⟨call, found, turned⟩
    unfold advance at turned
    simp only [found] at turned
    split at turned
    · rw [serving.notShuttingDown] at turned
      exact absurd (Option.some.inj turned) (giveBack_ne rfl)
    · rw [if_neg nonempty] at turned
      exact absurd (Option.some.inj turned) (giveBack_ne rfl)
    case h_3 index dispatched =>
        split at turned
        · cases turned
        case h_2 worker chosen =>
            split at turned
            · cases turned
            case h_2 lane atLane =>
                split at turned
                · exact absurd (Option.some.inj turned) (giveBack_ne rfl)
                case h_2 answer =>
                    obtain ⟨_, full⟩ := Channel.trySend_eq_full_iff.mp answer
                    rw [(wired atLane).capacity] at full
                    exact ⟨call, index, worker, lane, found, dispatched, chosen, atLane, full⟩
                · cases giveBack_inj (Option.some.inj turned)
  · rintro ⟨call, index, worker, lane, found, dispatched, chosen, atLane, full⟩
    have sound := wired atLane
    have present : lane.queue.receiver = true := by
      rw [← Bool.not_eq_false]
      intro gone
      exact serving.alive lane (List.mem_of_getElem? atLane) (sound.receiver.mp gone)
    have answer : lane.queue.trySend call.stream = .full := by
      apply Channel.trySend_eq_full_iff.mpr
      exact ⟨present, full.trans sound.capacity.symm⟩
    refine ⟨call, found, ?_⟩
    unfold advance
    simp only [found, dispatched, chosen, atLane, answer]

theorem workers_ne_zero_of_new {shuttingDown : Bool} {logger : MzaniResult Unit}
    (built : new config shuttingDown logger = .ok pool) : config.workers.val ≠ 0 := by
  unfold new at built
  split at built
  · cases built
  case h_2 valid =>
      intro zero
      apply ((PoolConfig.validate_eq_ok_iff config).mp valid).1
      exact Fin.ext zero

/-- Two workers with room for one stream each. -/
def twoWorkers : PoolConfig := { workers := 2, perWorkerQueue := 1 }

/-- The first worker is slow, the second one is fast: the fifth stream finds the
first queue full while the second one is empty. -/
def skewed : List (PoolAction Nat) :=
  [.submit 1, .advance 0, .advance 0, .advance 0, .work 0, .work 0, .work 0,
    .submit 2, .advance 0, .advance 0, .advance 0, .work 1, .work 1, .work 1, .work 1,
    .submit 3, .advance 0, .advance 0, .advance 0,
    .submit 4, .advance 0, .advance 0, .advance 0, .work 1, .work 1, .work 1, .work 1,
    .submit 5, .advance 0, .advance 0]

/-- One worker is busy and its queue is full. -/
def crowded : List (PoolAction Nat) :=
  [.submit 1, .advance 0, .advance 0, .advance 0, .work 0, .work 0, .work 0,
    .submit 2, .advance 0, .advance 0, .advance 0, .submit 3, .advance 0, .advance 0]

end ThreadPool

end Mzani
