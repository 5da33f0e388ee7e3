import Mzani.Balancer.ServerCalls
import Mzani.Balancer.ServerLog
import Mzani.State.TerminalEvents

/-!
# What the workers do

A property of the effects of `handle_connection`, which may depend on the worker,
holds of what the workers do in any run.  The other threads show something of
their own only.
-/

namespace Mzani

open Support

variable {Stream : Type}

/-! ## Calls -/

namespace Task

/-- All effects of the call have the property, whatever its selections are. -/
def Keeps (property : Effect → Prop) (task : Task) : Prop :=
  ∀ selections, ∀ effect ∈ (task.handled selections).effects, property effect

variable {property : Effect → Prop}

theorem Keeps.perform {effect : Effect} {rest : Task}
    (keeps : (Task.perform effect rest).Keeps property) : property effect ∧ rest.Keeps property := by
  constructor
  · exact keeps (fun _ => .error .noHealthyBackend) effect List.mem_cons_self
  · intro selections other member
    exact keeps selections other (List.mem_cons_of_mem effect member)

theorem Keeps.select {rest : MzaniResult SocketAddr → Task}
    (keeps : (Task.select rest).Keeps property) (result : MzaniResult SocketAddr) :
    (rest result).Keeps property := by
  intro selections effect member
  -- the first selection has the result, and the others come after it
  let all (number : Nat) : MzaniResult SocketAddr := Nat.casesOn number result selections
  exact keeps all effect member

end Task

/-- The property holds of all effects of the calls for the request. -/
def WorkerContext.Keeps (σ τ : Type) [Read σ] [Read τ] (context : WorkerContext)
    (property : Effect → Prop) (req : RequestContext) : Prop :=
  ∀ (client : ClientSocket σ) (around : Surroundings τ),
    ∀ effect ∈ (context.handleConnection client around req).effects, property effect

namespace Server

variable {σ τ : Type} [Read σ] [Read τ] {snapshotRecord : Metrics → LogRecord}
  {property : Nat → Effect → Prop} {server next : Server Stream} {output : Output Stream}

/-- A call with the selections that it is told. -/
theorem handled_meets (context : WorkerContext) (req : RequestContext) (meets : Meets σ τ)
    (selections : Nat → MzaniResult SocketAddr) :
    (context.handleTask req meets).handled selections =
      context.handleConnection meets.client (meets.surroundings selections) req := by
  rw [← handled_handleTask context meets.client (meets.surroundings selections) req]
  exact congrArg _ (funext fun number => by cases number <;> rfl)

theorem keeps_handleTask {context : WorkerContext} {property : Effect → Prop}
    {req : RequestContext} (keeps : context.Keeps σ τ property req) (meets : Meets σ τ) :
    (context.handleTask req meets).Keeps property := by
  intro selections effect member
  rw [handled_meets] at member
  exact keeps meets.client (meets.surroundings selections) effect member

/-- All that the workers still have to do has the property. -/
def KeepsTo (property : Nat → Effect → Prop) (server : Server Stream) : Prop :=
  ∀ worker task, server.tasks worker = some task → task.Keeps (property worker)

theorem keepsTo_of_idle (idle : server.tasks = fun _ => none) : KeepsTo property server := by
  intro worker task found
  rw [idle] at found
  cases found

theorem KeepsTo.setTask {worker : Nat} {task : Option Task} (keeps : KeepsTo property server)
    (sameTasks : next.tasks = server.tasks)
    (new : ∀ left, task = some left → left.Keeps (property worker)) :
    KeepsTo property (next.setTask worker task) := by
  intro other left found
  by_cases same : other = worker
  · subst same
    rw [tasks_setTask_self] at found
    exact new left found
  · rw [Server.setTask] at found
    dsimp only at found
    rw [Function.update_of_ne same, sameTasks] at found
    exact keeps other left found

/-! ## The threads around the workers -/

/-- What the threads around the workers show, with the records that they build. -/
inductive Around (snapshotRecord : Metrics → LogRecord) : Output Stream → Prop where
  | quiet : Around snapshotRecord .quiet
  | answered (stream : Stream) (bytes : Bytes) : Around snapshotRecord (.answered stream bytes)
  | logged (entry : LogEntry) (role : entry.record.role = .accept) :
      Around snapshotRecord (.logged entry.record)
  | reported (stats : RequestStats) :
      Around snapshotRecord (.reported (LogEntry.metricsRecord stats).record)
  | snapshot (metrics : Metrics) : Around snapshotRecord (.reported (snapshotRecord metrics))
  | wrote (record : LogRecord) : Around snapshotRecord (.wrote record)
  | probed (probe : Probe) {records : List LogRecord}
      (built : ∀ record ∈ records, ∃ recovered addr,
        record = BackendSet.healthRecord recovered addr) :
      Around snapshotRecord (.probed probe records)
  | slept (pause : Duration) : Around snapshotRecord (.slept pause)

theorem around_reject (server : Server Stream) (stream : Stream) (error : MzaniError) :
    Around snapshotRecord (server.reject stream error).2 := by
  cases error with
  | poolFull => exact .answered stream _
  | shutdownInProgress => exact .answered stream _
  | _ => exact .logged (.poolSubmitError _) rfl

theorem around_watch (connects : Duration → Bool) :
    Around snapshotRecord (server.watch connects).2 := by
  unfold watch
  split
  · exact .quiet
  · exact .quiet
  case h_3 addr addrs _ =>
      refine .probed _ fun record member => ?_
      obtain ⟨⟨about, emitted⟩, listed, rfl⟩ := List.mem_map.mp member
      unfold BackendSet.probeBackend at listed
      dsimp only at listed
      split at listed
      · split at listed
        · rw [(Prod.mk.inj (List.mem_singleton.mp listed)).2]
          exact ⟨true, addr, rfl⟩
        · cases listed
      · split at listed
        · rw [(Prod.mk.inj (List.mem_singleton.mp listed)).2]
          exact ⟨false, addr, rfl⟩
        · cases listed
  · split
    · exact .quiet
    · exact .slept _

theorem around_of_step [DecidableEq Stream] {event : Event Stream σ τ}
    (around : event.worker = none)
    (taken : server.step snapshotRecord event = some (next, output)) :
    Around snapshotRecord output := by
  cases event with
  | accept stream setReadTimeout =>
      simp only [step] at taken
      unfold accept at taken
      split at taken
      · cases taken
      · split at taken
        · cases taken
          exact .logged _ rfl
        · split at taken
          · cases taken
            exact .answered stream _
          · obtain ⟨pool, _, same⟩ := Option.map_eq_some_iff.mp taken
            cases same
            exact .quiet
  | acceptError error =>
      simp only [step] at taken
      split at taken
      · cases taken
        exact .logged _ rfl
      · cases taken
  | submit =>
      simp only [step] at taken
      unfold submit at taken
      split at taken
      · cases taken
      case h_2 pool _ =>
          split at taken
          · cases taken
            exact .quiet
          case h_2 stream error _ _ =>
            have rejected := @around_reject _ snapshotRecord { server with pool } stream error
            rw [Option.some.inj taken] at rejected
            exact rejected
  | work worker => cases around
  | call worker meets => cases around
  | aggregate elapsed =>
      obtain ⟨observability, _, same⟩ := Option.map_eq_some_iff.mp taken
      cases same
      unfold report
      split
      · exact .reported _
      · exact .snapshot _
      · exact .quiet
  | write =>
      obtain ⟨observability, _, same⟩ := Option.map_eq_some_iff.mp taken
      cases same
      unfold written
      split
      · exact .quiet
      · exact .wrote _
  | monitor connects =>
      have watched := @around_watch _ snapshotRecord server connects
      rw [Option.some.inj taken] at watched
      exact watched

/-- Only the workers do something for a call. -/
theorem Around.effect? (around : Around snapshotRecord output) : output.effect? = none := by
  cases around <;> rfl

theorem role_metricsRecord (stats : RequestStats) :
    (LogEntry.metricsRecord stats).record.role = .metrics := by
  obtain ⟨reqId, workerId, backend, requestLen, responseLen, duration, outcome, status⟩ := stats
  cases status <;> rfl

/-- No thread around the workers speaks for a call. -/
theorem Around.role (around : Around snapshotRecord output)
    (snapshots : ∀ metrics, (snapshotRecord metrics).role = .metrics) :
    ∀ record ∈ output.sends, record.role ≠ .worker := by
  have apart : ∀ {record : LogRecord} {role : LogRole}, record.role = role → role ≠ .worker →
      record.role ≠ .worker := fun same different => same ▸ different
  intro record member
  cases around with
  | answered stream bytes =>
      simp only [Output.sends] at member
      split at member
      · rw [List.mem_singleton.mp member]
        exact @apart poolSaturated .accept rfl (by decide)
      · cases member
  | logged entry role =>
      rw [List.mem_singleton.mp member]
      exact apart role (by decide)
  | reported stats =>
      rw [List.mem_singleton.mp member]
      exact apart (role_metricsRecord stats) (by decide)
  | snapshot metrics =>
      rw [List.mem_singleton.mp member]
      exact apart (snapshots metrics) (by decide)
  | probed probe built =>
      obtain ⟨recovered, addr, rfl⟩ := built record member
      have role : (BackendSet.healthRecord recovered addr).role = .health := by
        cases recovered <;> rfl
      exact apart role (by decide)
  | _ => cases member

/-! ## Steps and runs -/

theorem keeps_of_goOn {worker : Nat} {task : Task} (keeps : KeepsTo property server)
    (found : server.tasks worker = some task)
    (taken : server.goOn worker task = some (next, output)) :
    KeepsTo property next ∧ ∀ effect ∈ output.effect?, property worker effect := by
  have here := keeps worker task found
  cases task with
  | done result =>
      obtain ⟨pool, _, same⟩ := Option.map_eq_some_iff.mp taken
      cases same
      refine ⟨keeps.setTask rfl fun left none => ?_, fun effect none => ?_⟩
      · cases none
      · cases none
  | perform effect rest =>
      cases taken
      obtain ⟨now, later⟩ := here.perform
      have sameTasks : (server.apply effect).tasks = server.tasks := by rw [apply_eq]
      refine ⟨keeps.setTask sameTasks fun left some => ?_, fun shown same => ?_⟩
      · cases some
        exact later
      · cases same
        exact now
  | select rest =>
      cases taken
      refine ⟨keeps.setTask rfl fun left some => ?_, fun effect none => ?_⟩
      · cases some
        exact here.select _
      · cases none

theorem keeps_of_work {worker : Nat} (keeps : KeepsTo property server)
    (taken : server.work worker = some (next, output)) :
    KeepsTo property next ∧ ∀ effect ∈ output.effect?, property worker effect := by
  unfold work at taken
  split at taken
  case h_1 task found => exact keeps_of_goOn keeps found taken
  case h_2 =>
      split at taken
      · cases taken
      · obtain ⟨pool, _, same⟩ := Option.map_eq_some_iff.mp taken
        cases same
        refine ⟨keeps, fun effect shown => ?_⟩
        unfold refusal at shown
        split at shown <;> cases shown

theorem keeps_of_call {worker : Nat} {meets : Meets σ τ} (keeps : KeepsTo property server)
    (begins : server.context.Keeps σ τ (property worker) ⟨server.pool.nextReqId, worker⟩)
    (taken : server.call worker meets = some (next, output)) :
    KeepsTo property next ∧ output = .quiet := by
  unfold call at taken
  split at taken
  · obtain ⟨pool, _, same⟩ := Option.map_eq_some_iff.mp taken
    cases same
    refine ⟨keeps.setTask rfl fun left some => ?_, rfl⟩
    cases some
    exact keeps_handleTask begins meets
  · cases taken

/-- What a step does for a call has the property, and so has all that is left, if
a call that begins has it. -/
theorem keeps_of_step [DecidableEq Stream] {event : Event Stream σ τ}
    (begins : ∀ worker meets, event = .call worker meets →
      server.context.Keeps σ τ (property worker) ⟨server.pool.nextReqId, worker⟩)
    (keeps : KeepsTo property server)
    (taken : server.step snapshotRecord event = some (next, output)) :
    KeepsTo property next ∧
      ∀ worker, event.worker = some worker → ∀ effect ∈ output.effect?, property worker effect := by
  cases own : event.worker with
  | none =>
      refine ⟨?_, fun worker other => by cases other⟩
      have turns := turns_of_step taken
      rw [own] at turns
      cases turns with
      | around sameTasks =>
          intro worker task found
          rw [sameTasks] at found
          exact keeps worker task found
  | some chosen =>
      cases event with
      | work worker =>
          obtain ⟨keepsThen, here⟩ := keeps_of_work keeps taken
          refine ⟨keepsThen, fun other same => ?_⟩
          cases own
          cases same
          exact here
      | call worker meets =>
          obtain ⟨keepsThen, rfl⟩ := keeps_of_call keeps (begins worker meets rfl) taken
          exact ⟨keepsThen, fun _ _ effect shown => by cases shown⟩
      | _ => cases own

/-- In every run, what is done for calls has the property if all calls have it. -/
theorem performed_of_run [DecidableEq Stream] {property : Effect → Prop}
    {events : List (Event Stream σ τ)} {outputs : List (Output Stream)}
    (context : ∀ req, server.context.Keeps σ τ property req)
    (keeps : KeepsTo (fun _ => property) server)
    (ran : (machine snapshotRecord).run server events = some (next, outputs)) :
    ∀ effect ∈ outputs.filterMap Output.effect?, property effect := by
  refine @Transducer.run_relates _ _ _ (machine snapshotRecord) server next events outputs
    (fun first _ outputs => (∀ req, first.context.Keeps σ τ property req) →
      KeepsTo (fun _ => property) first →
      ∀ effect ∈ outputs.filterMap Output.effect?, property effect) ?_ ?_ ran context keeps
  · intro state _ _ effect none
    cases none
  · intro state middle last event output rest taken later context keeps effect member
    obtain ⟨keepsThen, here⟩ := keeps_of_step (fun _ _ _ => context _) keeps taken
    have sameContext : middle.context = state.context := (evolves_of_step taken).context
    obtain ⟨shown, listed, found⟩ := List.mem_filterMap.mp member
    rcases List.mem_cons.mp listed with rfl | listed
    · cases own : event.worker with
      | none =>
          rw [(around_of_step own taken).effect?] at found
          cases found
      | some worker => exact here worker own effect found
    · exact later (sameContext ▸ context) keepsThen effect
        (List.mem_filterMap.mpr ⟨shown, listed, found⟩)

/-- A worker sends the records of its call. -/
theorem sends_of_work {worker : Nat} (taken : server.work worker = some (next, output)) :
    output.sends = (output.effect?.bind Effect.record?).toList := by
  unfold work at taken
  split at taken
  case h_1 task found =>
      cases task with
      | done result =>
          obtain ⟨pool, _, same⟩ := Option.map_eq_some_iff.mp taken
          cases same
          rfl
      | perform effect rest =>
          cases taken
          cases effect <;> rfl
      | select rest =>
          cases taken
          rfl
  case h_2 =>
      split at taken
      · cases taken
      · obtain ⟨pool, _, same⟩ := Option.map_eq_some_iff.mp taken
        cases same
        rw [(silent_refusal server.pool worker).sends]
        unfold refusal
        split <;> rfl

theorem sends_of_step [DecidableEq Stream] {event : Event Stream σ τ} {worker : Nat}
    (own : event.worker = some worker)
    (taken : server.step snapshotRecord event = some (next, output)) :
    output.sends = (output.effect?.bind Effect.record?).toList := by
  cases event with
  | work worker => exact sends_of_work taken
  | call worker meets =>
      simp only [step] at taken
      unfold call at taken
      split at taken
      · obtain ⟨pool, _, same⟩ := Option.map_eq_some_iff.mp taken
        cases same
        rfl
      · cases taken
  | _ => cases own

end Server

end Mzani
