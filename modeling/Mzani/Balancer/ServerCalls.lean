import Mzani.Balancer.Plumbing
import Mzani.Balancer.Server

/-!
# Calls of `handle_connection` in a run

A worker has a call exactly while its loop is in one.  Whatever else happens in
between, what the worker shows from the beginning of its call to the end is
`handle_connection`, with the backends that were selected for it.
-/

namespace Mzani

open Support

variable {Stream : Type}

namespace ThreadPool

variable {pool next : ThreadPool Stream} {worker other : Nat}

/-- Where a worker is in its loop. -/
def workerStep (pool : ThreadPool Stream) (worker : Nat) : Option (WorkerStep Stream) :=
  pool.lanes[worker]?.map (·.worker)

/-- The worker is in a call of `handle_connection`. -/
def InCall (pool : ThreadPool Stream) (worker : Nat) : Prop :=
  ∃ req, pool.workerStep worker = some (.handling req)

theorem workerStep_of_found {lane : Lane Stream} (found : pool.lanes[worker]? = some lane) :
    pool.workerStep worker = some lane.worker := by
  rw [workerStep, found, Option.map_some]

theorem workerStep_setLane {lane old : Lane Stream} (found : pool.lanes[worker]? = some old) :
    (pool.setLane worker lane).workerStep worker = some lane.worker :=
  workerStep_of_found (lanes_setLane found)

theorem workerStep_setLane_of_ne (different : other ≠ worker) (lane : Lane Stream) :
    (pool.setLane worker lane).workerStep other = pool.workerStep other := by
  rw [workerStep, setLane, List.getElem?_set_ne (Ne.symm different)]
  rfl

/-- Calls of `submit` leave the workers where they are. -/
theorem workerStep_of_advances {number : Nat} (advances : Advances pool number next)
    (worker : Nat) : next.workerStep worker = pool.workerStep worker := by
  cases advances with
  | giveBack => rfl
  | goOn => rfl
  | @send call chosen lane queue _ _ found =>
      have atLane : (pool.endCall number).lanes[chosen]? = some lane := found
      by_cases same : worker = chosen
      · subst same
        rw [workerStep_of_found found]
        exact workerStep_setLane atLane
      · exact workerStep_setLane_of_ne same _

theorem workerStep_of_works (works : Works pool worker next) (different : other ≠ worker) :
    next.workerStep other = pool.workerStep other := by
  cases works with
  | _ => exact workerStep_setLane_of_ne different _

/-- After a step of its own a worker is in a call exactly if it was about to
begin one. -/
theorem inCall_of_works (works : Works pool worker next) :
    next.InCall worker ↔ ∃ stream, pool.workerStep worker = some (.numbering stream) := by
  have moved : ∀ {before after : WorkerStep Stream}, pool.workerStep worker = some before →
      next.workerStep worker = some after →
      ((∃ req, after = .handling req) ↔ ∃ stream, before = .numbering stream) →
      (next.InCall worker ↔ ∃ stream, pool.workerStep worker = some (.numbering stream)) := by
    intro before after atBefore atAfter same
    rw [InCall, atBefore, atAfter]
    simpa only [Option.some.injEq] using same
  cases works with
  | receive found holds =>
      exact moved (workerStep_of_found found) (workerStep_setLane found) (by simp [holds])
  | exit found holds =>
      exact moved (workerStep_of_found found) (workerStep_setLane found) (by simp [holds])
  | refuse found holds =>
      exact moved (workerStep_of_found found) (workerStep_setLane found) (by simp [holds])
  | accept found holds =>
      exact moved (workerStep_of_found found) (workerStep_setLane found) (by simp [holds])
  | answer found holds =>
      exact moved (workerStep_of_found found) (workerStep_setLane found) (by simp [holds])
  | handle found holds =>
      exact moved (workerStep_of_found found) (workerStep_setLane found) (by simp [holds])
  | finish found holds =>
      exact moved (workerStep_of_found found) (workerStep_setLane found) (by simp [holds])

end ThreadPool

/-! ## What a step does to the calls -/

section

variable {σ τ : Type}

/-- The worker whose step it is. -/
def Event.worker : Event Stream σ τ → Option Nat
  | .work worker => some worker
  | .call worker _ => some worker
  | _ => none

end

namespace Server

variable {server next : Server Stream} {worker : Nat} {output : Output Stream}

theorem calls_eq_true_iff {pool : ThreadPool Stream} :
    calls pool worker = true ↔ ∃ stream, pool.workerStep worker = some (.numbering stream) := by
  unfold calls ThreadPool.workerStep
  cases pool.lanes[worker]? with
  | none => simp
  | some lane =>
      obtain ⟨queue, step⟩ := lane
      cases step <;> simp

/-- What a step can do to the calls: it is not a step of a worker, or the worker
goes on in its loop, begins a call, or goes on with one. -/
inductive Turns (server : Server Stream) : Option Nat → Output Stream → Server Stream → Prop where
  | around {output : Output Stream} {next : Server Stream} :
      next.tasks = server.tasks →
      (∀ worker, next.pool.workerStep worker = server.pool.workerStep worker) →
      Turns server none output next
  | loop {worker : Nat} {output : Output Stream} {pool : ThreadPool Stream} :
      server.tasks worker = none → calls server.pool worker = false →
      ThreadPool.Works server.pool worker pool →
      Turns server (some worker) output { server with pool }
  | enter {worker : Nat} {pool : ThreadPool Stream} (task : Task) :
      calls server.pool worker = true → ThreadPool.Works server.pool worker pool →
      Turns server (some worker) .quiet ({ server with pool }.setTask worker (some task))
  | perform {worker : Nat} {effect : Effect} {rest : Task} :
      server.tasks worker = some (.perform effect rest) →
      Turns server (some worker) (.performed effect)
        ((server.apply effect).setTask worker (some rest))
  | select {worker : Nat} {rest : MzaniResult SocketAddr → Task} {backends : BackendSet}
      {result : MzaniResult SocketAddr} :
      server.tasks worker = some (.select rest) →
      Turns server (some worker) (.selected result)
        ({ server with backends }.setTask worker (some (rest result)))
  | finish {worker : Nat} {result : MzaniResult Unit} {pool : ThreadPool Stream} :
      server.tasks worker = some (.done result) →
      ThreadPool.Works server.pool worker pool →
      Turns server (some worker) (.returned result)
        ({ server with pool }.setTask worker none)

theorem turns_of_work (taken : server.work worker = some (next, output)) :
    Turns server (some worker) output next := by
  unfold work at taken
  split at taken
  case h_1 task found =>
      cases task with
      | done result =>
          obtain ⟨pool, worked, same⟩ := Option.map_eq_some_iff.mp taken
          cases same
          exact .finish found (ThreadPool.works_of_work worked)
      | perform effect rest =>
          cases taken
          exact .perform found
      | select rest =>
          cases taken
          exact .select found
  case h_2 idle =>
      split at taken
      · cases taken
      case isFalse looping =>
          obtain ⟨pool, worked, same⟩ := Option.map_eq_some_iff.mp taken
          cases same
          exact .loop idle (Bool.eq_false_iff.mpr looping) (ThreadPool.works_of_work worked)

theorem turns_of_submit (taken : server.submit = some (next, output)) :
    Turns server none output next := by
  unfold submit at taken
  split at taken
  · cases taken
  case h_2 pool advanced =>
      have kept := ThreadPool.workerStep_of_advances (ThreadPool.advances_of_advance advanced)
      split at taken
      · cases taken
        exact .around rfl kept
      case h_2 stream error _ _ =>
          have given : (reject { server with pool } stream error).1 = next :=
            congrArg Prod.fst (Option.some.inj taken)
          have sameTasks : (reject { server with pool } stream error).1.tasks = server.tasks := by
            cases error <;> rfl
          have samePool : (reject { server with pool } stream error).1.pool = pool := by
            cases error <;> rfl
          rw [given] at sameTasks samePool
          exact .around sameTasks (samePool ▸ kept)

section

variable {σ τ : Type} [Read σ] [Read τ]

theorem turns_of_call {meets : Meets σ τ}
    (taken : server.call worker meets = some (next, output)) :
    Turns server (some worker) output next := by
  unfold call at taken
  split at taken
  case isTrue calling =>
      obtain ⟨pool, worked, same⟩ := Option.map_eq_some_iff.mp taken
      cases same
      exact .enter _ calling (ThreadPool.works_of_work worked)
  case isFalse => cases taken

variable [DecidableEq Stream]

omit [Read σ] [Read τ] in
theorem turns_of_accept {stream : Stream} {setReadTimeout : Duration → Except IoError Unit}
    (taken : server.accept stream setReadTimeout = some (next, output)) :
    Turns server none output next := by
  unfold accept at taken
  split at taken
  · cases taken
  · split at taken
    · cases taken
      exact .around rfl fun _ => rfl
    · split at taken
      · cases taken
        exact .around rfl fun _ => rfl
      · obtain ⟨pool, entered, same⟩ := Option.map_eq_some_iff.mp taken
        cases same
        have lanes := ThreadPool.lanes_of_enterSubmit entered
        refine .around rfl fun worker => ?_
        rw [ThreadPool.workerStep, lanes]
        rfl

theorem turns_of_step {snapshotRecord : Metrics → LogRecord} {event : Event Stream σ τ}
    (taken : server.step snapshotRecord event = some (next, output)) :
    Turns server event.worker output next := by
  cases event with
  | accept stream setReadTimeout => exact turns_of_accept taken
  | acceptError error =>
      simp only [step] at taken
      split at taken
      · cases taken
        exact .around rfl fun _ => rfl
      · cases taken
  | submit => exact turns_of_submit taken
  | work worker => exact turns_of_work taken
  | call worker meets => exact turns_of_call taken
  | aggregate elapsed =>
      obtain ⟨observability, _, same⟩ := Option.map_eq_some_iff.mp taken
      cases same
      exact .around rfl fun _ => rfl
  | write =>
      obtain ⟨observability, _, same⟩ := Option.map_eq_some_iff.mp taken
      cases same
      exact .around rfl fun _ => rfl
  | monitor connects =>
      have watched : (server.watch connects).1 = next :=
        congrArg Prod.fst (Option.some.inj taken)
      have same : next.tasks = server.tasks ∧ next.pool = server.pool := by
        rw [← watched]
        unfold watch
        split
        · exact ⟨rfl, rfl⟩
        · exact ⟨rfl, rfl⟩
        · exact ⟨rfl, rfl⟩
        · split <;> exact ⟨rfl, rfl⟩
      refine .around same.1 fun worker => ?_
      rw [same.2]

end

/-! ## Workers in a call -/

/-- A worker has a call exactly while its loop is in one. -/
def Attended (server : Server Stream) : Prop :=
  ∀ worker, server.tasks worker ≠ none ↔ server.pool.InCall worker

/-- Only one worker has to be looked at. -/
theorem Attended.update {task : Option Task} (attended : Attended server)
    (tasks : next.tasks = Function.update server.tasks worker task)
    (elsewhere : ∀ other, other ≠ worker →
      next.pool.workerStep other = server.pool.workerStep other)
    (here : task ≠ none ↔ next.pool.InCall worker) : Attended next := by
  intro other
  rw [tasks]
  by_cases same : other = worker
  · subst same
    rw [Function.update_self]
    exact here
  · rw [Function.update_of_ne same, ThreadPool.InCall, elsewhere other same]
    exact attended other

theorem Attended.inCall {task : Task} (attended : Attended server)
    (found : server.tasks worker = some task) : server.pool.InCall worker := by
  rw [← attended, found]
  nofun

theorem attended_of_turns {chosen : Option Nat} (attended : Attended server)
    (turns : Turns server chosen output next) : Attended next := by
  cases turns with
  | around sameTasks sameSteps =>
      intro worker
      rw [sameTasks, ThreadPool.InCall, sameSteps]
      exact attended worker
  | @loop worker _ pool idle looping works =>
      have sameTasks : server.tasks = Function.update server.tasks worker none := by
        rw [← idle, Function.update_eq_self]
      refine attended.update sameTasks (fun _ => ThreadPool.workerStep_of_works works) ?_
      rw [ThreadPool.inCall_of_works works, ← calls_eq_true_iff, looping]
      simp
  | enter task calling works =>
      refine attended.update rfl (fun _ => ThreadPool.workerStep_of_works works) ?_
      have entered := (ThreadPool.inCall_of_works works).mpr (calls_eq_true_iff.mp calling)
      exact ⟨fun _ => entered, nofun⟩
  | @perform worker effect rest found =>
      rw [apply_eq]
      apply attended.update rfl
      · intro other _
        rfl
      · exact ⟨fun _ => attended.inCall found, nofun⟩
  | select found =>
      apply attended.update rfl
      · intro other _
        rfl
      · exact ⟨fun _ => attended.inCall found, nofun⟩
  | finish found works =>
      refine attended.update rfl (fun _ => ThreadPool.workerStep_of_works works) ?_
      obtain ⟨req, handling⟩ := attended.inCall found
      have ended := ThreadPool.inCall_of_works works
      rw [handling] at ended
      constructor
      · exact fun busy => absurd rfl busy
      · intro inCall
        obtain ⟨stream, numbering⟩ := ended.mp inCall
        cases numbering

theorem attended_of_started {config : BalancerConfig} (started : Started config server) :
    Attended server := by
  obtain ⟨positive, spawned⟩ := started.pool
  intro worker
  rw [started.tasks, spawned]
  constructor
  · exact fun busy => absurd rfl busy
  · rintro ⟨req, handling⟩
    obtain ⟨lane, found, holds⟩ := Option.map_eq_some_iff.mp handling
    obtain ⟨_, rfl⟩ := ThreadPool.getElem?_spawn found
    cases holds

section

variable {σ τ : Type} [DecidableEq Stream] [Read σ] [Read τ]
  {snapshotRecord : Metrics → LogRecord} {events : List (Event Stream σ τ)}
  {outputs : List (Output Stream)}

/-- In every run the calls are those of the workers that are in one. -/
theorem Attended.run (attended : Attended server)
    (run : (machine snapshotRecord).run server events = some (next, outputs)) :
    Attended next := by
  apply Machine.run_induction (fun _ reached => Attended reached) attended _
    (Transducer.run_toMachine run)
  intro _ reached event after held taken
  obtain ⟨⟨state, output⟩, stepped, rfl⟩ := Option.map_eq_some_iff.mp taken
  exact attended_of_turns held (turns_of_step stepped)

end

end Server

/-! ## A call from its beginning to its end -/

namespace Output

def effect? : Output Stream → Option Effect
  | .performed effect => some effect
  | _ => none

def selection? : Output Stream → Option (MzaniResult SocketAddr)
  | .selected result => some result
  | _ => none

end Output

/-- The first selections have these results. -/
def Answers (selections : Nat → MzaniResult SocketAddr)
    (results : List (MzaniResult SocketAddr)) : Prop :=
  ∀ number result, results[number]? = some result → selections number = result

namespace Task

/-- A call shows this and goes on, or returns. -/
inductive Step : Task → Output Stream → Option Task → Prop where
  | perform (effect : Effect) (rest : Task) :
      Step (.perform effect rest) (.performed effect) (some rest)
  | select (rest : MzaniResult SocketAddr → Task) (result : MzaniResult SocketAddr) :
      Step (.select rest) (.selected result) (some (rest result))
  | done (result : MzaniResult Unit) : Step (.done result) (.returned result) none

theorem Step.eq_done {task : Task} {result : MzaniResult Unit} {rest : Option Task}
    (step : task.Step (.returned result : Output Stream) rest) : task = .done result := by
  cases step
  rfl

/-- What is left of a call once it has shown these. -/
inductive Runs : Task → List (Output Stream) → Task → Prop where
  | refl (task : Task) : Runs task [] task
  | step {task next rest : Task} {output : Output Stream} {outputs : List (Output Stream)} :
      task.Step output (some next) → Runs next outputs rest →
      Runs task (output :: outputs) rest

/-- The steps of a call together. -/
theorem handled_of_runs {task rest : Task} {outputs : List (Output Stream)}
    (runs : task.Runs outputs rest) {selections : Nat → MzaniResult SocketAddr}
    (answers : Answers selections (outputs.filterMap Output.selection?)) :
    task.handled selections =
      (rest.handled fun number =>
        selections (number + (outputs.filterMap Output.selection?).length)).after
          (outputs.filterMap Output.effect?) := by
  induction runs generalizing selections with
  | refl task => rfl
  | @step _ _ rest _ outputs stepped _ ih =>
      cases stepped with
      | perform effect next =>
          have later := ih answers
          rw [handled, later, Handled.after_after]
          rfl
      | select next result =>
          have first : selections 0 = result := answers 0 result rfl
          have others : Answers (fun number => selections (number + 1))
              (outputs.filterMap Output.selection?) := by
            intro number later found
            exact answers (number + 1) later found
          have later := ih others
          rw [handled, first, later]
          rfl

end Task

namespace Server

section

variable {σ τ : Type}

/-- What a worker shows in its own steps. -/
def shownBy (worker : Nat) : List (Event Stream σ τ) → List (Output Stream) →
    List (Output Stream)
  | event :: events, output :: outputs =>
      if event.worker = some worker then output :: shownBy worker events outputs
      else shownBy worker events outputs
  | _, _ => []

end

variable {server called middle next : Server Stream} {worker : Nat} {output : Output Stream}

/-- A call goes on with the steps of its worker only. -/
theorem step_of_turns {chosen : Option Nat} {task : Task} (attended : Attended server)
    (turns : Turns server chosen output next) (found : server.tasks worker = some task) :
    (chosen ≠ some worker ∧ next.tasks worker = some task) ∨
      (chosen = some worker ∧ task.Step output (next.tasks worker)) := by
  have elsewhere : ∀ {other : Nat} (moved : Option Task), other ≠ worker →
      Function.update server.tasks other moved worker = some task := by
    intro other moved different
    rw [Function.update_of_ne (Ne.symm different)]
    exact found
  by_cases own : chosen = some worker
  · refine .inr ⟨own, ?_⟩
    cases turns with
    | around => cases own
    | loop idle =>
        cases own
        rw [found] at idle
        cases idle
    | enter entered calling =>
        cases own
        obtain ⟨req, handling⟩ := attended.inCall found
        obtain ⟨stream, numbering⟩ := calls_eq_true_iff.mp calling
        rw [handling] at numbering
        cases numbering
    | @perform _ effect rest here =>
        cases own
        rw [found] at here
        cases here
        rw [tasks_setTask_self]
        exact .perform effect rest
    | @select _ rest backends result here =>
        cases own
        rw [found] at here
        cases here
        rw [tasks_setTask_self]
        exact .select rest result
    | @finish _ result pool here =>
        cases own
        rw [found] at here
        cases here
        rw [tasks_setTask_self]
        exact .done result
  · refine .inl ⟨own, ?_⟩
    cases turns with
    | around sameTasks =>
        rw [sameTasks]
        exact found
    | loop => exact found
    | enter => exact elsewhere _ fun same => own (congrArg some same)
    | perform =>
        rw [apply_eq]
        exact elsewhere _ fun same => own (congrArg some same)
    | select => exact elsewhere _ fun same => own (congrArg some same)
    | finish => exact elsewhere _ fun same => own (congrArg some same)

variable {σ τ : Type} [DecidableEq Stream] [Read σ] [Read τ]
  {snapshotRecord : Metrics → LogRecord} {events : List (Event Stream σ τ)}
  {outputs : List (Output Stream)}

/-- Until it returns a call goes on, whatever else happens. -/
theorem runs_of_run {task : Task} (attended : Attended server)
    (found : server.tasks worker = some task)
    (run : (machine snapshotRecord).run server events = some (next, outputs))
    (unreturned : ∀ result, .returned result ∉ shownBy worker events outputs) :
    ∃ rest, next.tasks worker = some rest ∧
      task.Runs (shownBy worker events outputs) rest := by
  induction events generalizing server task outputs with
  | nil =>
      cases run
      exact ⟨task, found, .refl task⟩
  | cons event events ih =>
      obtain ⟨middle, output, later, taken, after, rfl⟩ :=
        Transducer.run_cons_eq_some_iff.mp run
      have turns := turns_of_step taken
      have attendedThen := attended_of_turns attended turns
      rcases step_of_turns attended turns found with ⟨other, kept⟩ | ⟨own, stepped⟩
      · rw [shownBy, if_neg other] at unreturned ⊢
        exact ih attendedThen kept after unreturned
      · rw [shownBy, if_pos own] at unreturned ⊢
        cases left : middle.tasks worker with
        | none =>
            rw [left] at stepped
            cases stepped with
            | done result => exact absurd List.mem_cons_self (unreturned result)
        | some task =>
            rw [left] at stepped
            obtain ⟨rest, reached, runs⟩ := ih attendedThen left after fun result member =>
              unreturned result (List.mem_cons_of_mem output member)
            exact ⟨rest, reached, .step stepped runs⟩

end Server

/-- Surroundings in which the selections have these results in turn. -/
def Meets.surroundings {σ τ : Type} (meets : Meets σ τ)
    (selections : Nat → MzaniResult SocketAddr) : Surroundings τ where
  selected := selections 0
  network :=
    { connect := meets.connect
      selectBackend := fun retry => selections (retry + 1) }
  clock := meets.clock

namespace Server

variable {σ τ : Type} [DecidableEq Stream] [Read σ] [Read τ]
  {snapshotRecord : Metrics → LogRecord} {events : List (Event Stream σ τ)}
  {outputs : List (Output Stream)}
  {server called middle next : Server Stream} {worker : Nat} {output : Output Stream}

/-- What a worker shows from the beginning of a call to the end is
`handle_connection`. -/
theorem handleConnection_of_run {meets : Meets σ τ} {result : MzaniResult Unit}
    (attended : Attended server) (began : server.call worker meets = some (called, output))
    (run : (machine snapshotRecord).run called events = some (middle, outputs))
    (unreturned : ∀ result, .returned result ∉ shownBy worker events outputs)
    (ended : middle.work worker = some (next, .returned result))
    {selections : Nat → MzaniResult SocketAddr}
    (answers : Answers selections
      ((shownBy worker events outputs).filterMap Output.selection?)) :
    server.context.handleConnection meets.client (meets.surroundings selections)
        ⟨server.pool.nextReqId, worker⟩ =
      { effects := (shownBy worker events outputs).filterMap Output.effect?, result } := by
  let req : RequestContext := ⟨server.pool.nextReqId, worker⟩
  have begun : called.tasks worker = some (server.context.handleTask req meets) := by
    unfold call at began
    split at began
    · obtain ⟨pool, _, same⟩ := Option.map_eq_some_iff.mp began
      cases same
      exact Function.update_self worker _ _
    · cases began
  have attendedThen := attended_of_turns attended (turns_of_call began)
  obtain ⟨rest, left, runs⟩ := runs_of_run attendedThen begun run unreturned
  have last := step_of_turns (attendedThen.run run) (turns_of_work ended) left
  have whole := Task.handled_of_runs runs answers
  rcases last with ⟨other, _⟩ | ⟨_, returned⟩
  · exact absurd rfl other
  · rw [returned.eq_done] at whole
    calc server.context.handleConnection meets.client (meets.surroundings selections) req
        = (server.context.handleTask req meets).handled _ :=
          (handled_handleTask server.context meets.client (meets.surroundings selections)
            req).symm
      _ = (server.context.handleTask req meets).handled selections :=
          congrArg _ (funext fun number => by cases number <;> rfl)
      _ = _ := by
          rw [whole, Task.handled, Handled.after, List.append_nil]

end Server

end Mzani
