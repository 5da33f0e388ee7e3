import Mzani.Balancer.ServerLogFile
import Mzani.Balancer.ServerRequests
import Mzani.Core.PoolConservation
import Mzani.State.Correlation
import Mzani.State.MetricsReport

/-!
# The trail of a request

Calls of `handle_connection` run at the same time and share their channels.
Still all that is logged and counted under the id of one of them, in the whole
run, is what `handle_connection` logs and counts for that connection alone, in
the same order.
-/

namespace Mzani

open Support

variable {Stream : Type}

/-! ## Ids -/

namespace ThreadPool

variable {pool next : ThreadPool Stream} {worker : Nat}

theorem handled_le_of_works (works : Works pool worker next) :
    pool.handled.length ≤ next.handled.length := by
  cases works with
  | handle => exact List.length_append ▸ Nat.le_add_right _ _
  | _ => exact le_rfl

theorem handled_le_of_steps (steps : Steps pool next) :
    pool.handled.length ≤ next.handled.length := by
  cases steps with
  | advance advances => cases advances <;> exact le_rfl
  | work works => exact handled_le_of_works works
  | dropSender dropped =>
      rw [dropped.result]
      exact le_rfl
  | _ => exact le_rfl

/-- A worker that begins a call gives it the next id. -/
theorem handled_of_numbering {stream : Stream} (works : Works pool worker next)
    (numbering : pool.workerStep worker = some (.numbering stream)) :
    next.handled.length = pool.handled.length + 1 := by
  have holds : ∀ {lane : Lane Stream}, pool.lanes[worker]? = some lane →
      lane.worker = .numbering stream := by
    intro lane found
    rw [workerStep_of_found found] at numbering
    exact Option.some.inj numbering
  cases works with
  | handle => exact List.length_append
  | receive found other => cases other.symm.trans (holds found)
  | exit found other => cases other.symm.trans (holds found)
  | refuse found other => cases other.symm.trans (holds found)
  | accept found other => cases other.symm.trans (holds found)
  | answer found other => cases other.symm.trans (holds found)
  | finish found other => cases other.symm.trans (holds found)

end ThreadPool

namespace Server

section

variable [DecidableEq Stream] {server next : Server Stream}

theorem Evolves.numbered (evolves : Evolves server next) (numbered : server.pool.Numbered) :
    next.pool.Numbered := by
  obtain ⟨actions, ran⟩ := evolves.pool
  refine Machine.run_induction (fun _ reached => reached.Numbered) numbered ?_ ran
  intro _ reached action after held taken
  exact ThreadPool.numbered_of_steps held (ThreadPool.steps_of_step taken)

theorem Evolves.handled_le (evolves : Evolves server next) :
    server.pool.handled.length ≤ next.pool.handled.length := by
  obtain ⟨actions, ran⟩ := evolves.pool
  refine Machine.run_induction
    (fun _ reached => server.pool.handled.length ≤ reached.handled.length) le_rfl ?_ ran
  intro _ reached action after held taken
  exact held.trans (ThreadPool.handled_le_of_steps (ThreadPool.steps_of_step taken))

end

end Server

/-! ## What is shown under an id -/

/-- A record of a call with the id. -/
def LogRecord.Traces (record : LogRecord) (reqId : U64) : Prop :=
  record.role = .worker ∧ record.reqId = some reqId

instance (record : LogRecord) (reqId : U64) : Decidable (record.Traces reqId) :=
  inferInstanceAs (Decidable (_ ∧ _))

/-- The effect is logged or counted under the id. -/
def Effect.Tells (effect : Effect) (reqId : U64) : Prop :=
  match effect with
  | .emitLog record => record.Traces reqId
  | .recordMetrics stats => stats.reqId = reqId
  | _ => False

instance (effect : Effect) (reqId : U64) : Decidable (effect.Tells reqId) := by
  cases effect with
  | emitLog record => exact inferInstanceAs (Decidable (record.Traces reqId))
  | recordMetrics stats => exact inferInstanceAs (Decidable (stats.reqId = reqId))
  | _ => exact inferInstanceAs (Decidable False)

namespace Output

/-- The call has not returned. -/
def goesOn : Output Stream → Bool
  | .returned _ => false
  | _ => true

/-- What a call is told until it returns. -/
def selections (outputs : List (Output Stream)) : List (MzaniResult SocketAddr) :=
  (outputs.takeWhile goesOn).filterMap selection?

end Output

/-- The effects that are logged or counted under the id. -/
def told (reqId : U64) (outputs : List (Output Stream)) : List Effect :=
  (outputs.filterMap Output.effect?).filter (·.Tells reqId)

section

variable {reqId : U64} {req : RequestContext} {effect : Effect}

theorem told_cons (output : Output Stream) (outputs : List (Output Stream)) :
    told reqId (output :: outputs) =
      (output.effect?.toList.filter (·.Tells reqId)) ++ told reqId outputs := by
  rw [told, List.filterMap_cons]
  cases output.effect? with
  | none => rfl
  | some effect => exact List.filter_append [effect] _

theorem told_append (outputs more : List (Output Stream)) :
    told reqId (outputs ++ more) = told reqId outputs ++ told reqId more := by
  rw [told, List.filterMap_append, List.filter_append]
  rfl

/-- All statistics are shown under the ids of their calls. -/
theorem stats_told (outputs : List (Output Stream)) :
    (outputs.filterMap Output.records).filter (·.reqId = reqId) =
      (told reqId outputs).filterMap Effect.stats? := by
  induction outputs with
  | nil => rfl
  | cons output outputs ih =>
      rw [told_cons, List.filterMap_append, ← ih, List.filterMap_cons]
      cases output with
      | performed effect =>
          cases effect with
          | recordMetrics stats =>
              by_cases same : stats.reqId = reqId
              · simp [Output.records, Output.effect?, Effect.Tells, Effect.stats?, same]
              · simp [Output.records, Output.effect?, Effect.Tells, same]
          | emitLog record =>
              by_cases traces : record.Traces reqId
              · simp [Output.records, Output.effect?, Effect.Tells, Effect.stats?, traces]
              · simp [Output.records, Output.effect?, Effect.Tells, traces]
          | _ => rfl
      | _ => rfl

/-- What carries other identifiers is not shown under the id. -/
theorem Effect.Of.not_tells (carries : effect.Of req) (other : req.reqId ≠ reqId) :
    ¬effect.Tells reqId := by
  intro tells
  cases effect with
  | emitLog record => exact other (Option.some.inj (carries.reqId.symm.trans tells.2))
  | recordMetrics stats => exact other (carries.1.symm.trans tells)
  | _ => exact tells

/-- Nothing else that carries the identifiers is logged. -/
theorem records_filter_tells {effects : List Effect}
    (carry : ∀ effect ∈ effects, effect.Of req) :
    (effects.filter (·.Tells req.reqId)).filterMap Effect.record? =
      effects.filterMap Effect.record? := by
  induction effects with
  | nil => rfl
  | cons effect effects ih =>
      obtain ⟨here, later⟩ := List.forall_mem_cons.mp carry
      have same := ih later
      rw [List.filter_cons]
      split
      · rw [List.filterMap_cons, List.filterMap_cons, same]
      case isFalse untold =>
          rw [same]
          cases effect with
          | emitLog record =>
              exact absurd (decide_eq_true (And.intro here.role here.reqId)) untold
          | _ => rfl

theorem stats_filter_tells {effects : List Effect}
    (carry : ∀ effect ∈ effects, effect.Of req) :
    (effects.filter (·.Tells req.reqId)).filterMap Effect.stats? =
      effects.filterMap Effect.stats? := by
  induction effects with
  | nil => rfl
  | cons effect effects ih =>
      obtain ⟨here, later⟩ := List.forall_mem_cons.mp carry
      have same := ih later
      rw [List.filter_cons]
      split
      · rw [List.filterMap_cons, List.filterMap_cons, same]
      case isFalse untold =>
          rw [same]
          cases effect with
          | recordMetrics stats => exact absurd (decide_eq_true here.1) untold
          | _ => rfl

end

namespace Server

variable {reqId : U64} {worker position : Nat} {server called middle next : Server Stream}
  {output : Output Stream}

/-! ## Calls for other ids -/

/-- The id that is given at a position of the whole run. -/
structure GivenAt (reqId : U64) (position : Nat) : Prop where
  inRange : position < u64Limit
  number : reqId.val = (position + 1) % u64Limit

theorem GivenAt.ne_nextReqId (given : GivenAt reqId position) (numbered : server.pool.Numbered)
    (few : server.pool.handled.length < u64Limit)
    (other : server.pool.handled.length ≠ position) : server.pool.nextReqId ≠ reqId := by
  intro same
  have numbers := numbered.upcoming
  rw [same, given.number] at numbers
  have inRange := given.inRange
  have limit : u64Limit = 2 ^ 64 := rfl
  rw [limit] at few inRange numbers
  omega

variable {σ τ : Type} [Read σ] [Read τ]

/-- What a call needs to begin, the ids that it leaves, and what is left of it. -/
theorem begins_of_call {meets : Meets σ τ}
    (taken : server.call worker meets = some (next, output)) :
    calls server.pool worker = true ∧
      next.pool.handled.length = server.pool.handled.length + 1 ∧
      next.tasks worker =
        some (server.context.handleTask ⟨server.pool.nextReqId, worker⟩ meets) := by
  unfold call at taken
  split at taken
  case isTrue calling =>
      obtain ⟨pool, worked, same⟩ := Option.map_eq_some_iff.mp taken
      cases same
      obtain ⟨stream, numbering⟩ := calls_eq_true_iff.mp calling
      refine ⟨calling, ?_, tasks_setTask_self _ worker _⟩
      exact ThreadPool.handled_of_numbering (ThreadPool.works_of_work worked) numbering
  case isFalse => cases taken

/-- A call that begins has another id than the one of another position. -/
theorem other_of_call (given : GivenAt reqId position) {meets : Meets σ τ}
    (numbered : server.pool.Numbered)
    (outside : position < server.pool.handled.length ∨ next.pool.handled.length ≤ position)
    (few : next.pool.handled.length ≤ u64Limit)
    (taken : server.call worker meets = some (next, output)) :
    server.context.Keeps σ τ (¬·.Tells reqId) ⟨server.pool.nextReqId, worker⟩ := by
  have longer := (begins_of_call taken).2.1
  have other := given.ne_nextReqId numbered (by omega) (by omega)
  intro client around effect member
  exact (WorkerContext.allOf_handleConnection effect member).not_tells other

variable [DecidableEq Stream] {snapshotRecord : Metrics → LogRecord}
  {events : List (Event Stream σ τ)} {outputs : List (Output Stream)}

/-- While no call has the id nothing is shown under it. -/
theorem told_eq_nil_of_run (given : GivenAt reqId position) (numbered : server.pool.Numbered)
    (keeps : KeepsTo (fun _ effect => ¬effect.Tells reqId) server)
    (outside : position < server.pool.handled.length ∨ next.pool.handled.length ≤ position)
    (few : next.pool.handled.length ≤ u64Limit)
    (ran : (machine snapshotRecord).run server events = some (next, outputs)) :
    KeepsTo (fun _ effect => ¬effect.Tells reqId) next ∧ told reqId outputs = [] := by
  induction events generalizing server outputs with
  | nil =>
      cases ran
      exact ⟨keeps, rfl⟩
  | cons event events ih =>
      obtain ⟨middle, output, later, taken, went, rfl⟩ := Transducer.run_cons_eq_some_iff.mp ran
      have first := evolves_of_step taken
      have here := first.handled_le
      have rest := (evolves_of_run went).handled_le
      obtain ⟨keepsThen, shown⟩ := keeps_of_step
        (fun worker meets same => by
          subst same
          exact other_of_call given numbered (by omega) (by omega) taken)
        keeps taken
      obtain ⟨keepsLast, silent⟩ := ih (first.numbered numbered) keepsThen (by omega) went
      refine ⟨keepsLast, ?_⟩
      rw [told_cons, silent, List.append_nil, List.filter_eq_nil_iff]
      intro effect member
      rw [Option.mem_toList] at member
      cases own : event.worker with
      | none =>
          rw [(around_of_step own taken).effect?] at member
          cases member
      | some worker =>
          rw [decide_eq_true_eq]
          exact shown worker own effect member

/-! ## The call with the id -/

/-- A call shows its own effects under its id, until it returns. -/
theorem told_of_run {task : Task} (given : GivenAt reqId position)
    (numbered : server.pool.Numbered) (attended : Attended server)
    (others : KeepsTo (fun other effect => other ≠ worker → ¬effect.Tells reqId) server)
    (begun : position < server.pool.handled.length)
    (found : server.tasks worker = some task)
    (few : next.pool.handled.length ≤ u64Limit)
    (ran : (machine snapshotRecord).run server events = some (next, outputs)) :
    ∃ selections rest, Answers selections (Output.selections (shownBy worker events outputs)) ∧
      (task.handled selections).effects.filter (·.Tells reqId) = told reqId outputs ++ rest ∧
      ((∃ result, .returned result ∈ shownBy worker events outputs) → rest = []) := by
  induction events generalizing server task outputs with
  | nil =>
      cases ran
      refine ⟨fun _ => .error .noHealthyBackend, _, fun _ _ none => ?_, rfl, fun shown => ?_⟩
      · cases none
      · cases shown.choose_spec
  | cons event events ih =>
      obtain ⟨middle, output, later, taken, went, rfl⟩ := Transducer.run_cons_eq_some_iff.mp ran
      have first := evolves_of_step taken
      have here := first.handled_le
      have rest := (evolves_of_run went).handled_le
      have turns := turns_of_step taken
      have attendedThen := attended_of_turns attended turns
      obtain ⟨othersThen, shown⟩ := keeps_of_step
        (fun chosen meets same => by
          subst same
          intro client around effect member _
          exact other_of_call given numbered (.inl begun) (by omega) taken client around effect
            member)
        others taken
      rcases step_of_turns attended turns found with ⟨apart, kept⟩ | ⟨own, stepped⟩
      · obtain ⟨selections, left, answers, same, returned⟩ :=
          ih (first.numbered numbered) attendedThen othersThen (by omega) kept went
        have silent : output.effect?.toList.filter (·.Tells reqId) = [] := by
          rw [List.filter_eq_nil_iff]
          intro effect member
          rw [Option.mem_toList] at member
          cases chosen : event.worker with
          | none =>
              rw [(around_of_step chosen taken).effect?] at member
              cases member
          | some other =>
              rw [decide_eq_true_eq]
              exact shown other chosen effect member fun same => apart (same ▸ chosen)
        rw [shownBy, if_neg apart]
        refine ⟨selections, left, answers, ?_, returned⟩
        rw [told_cons, silent, same]
        rfl
      · rw [shownBy, if_pos own]
        cases remaining : middle.tasks worker with
        | none =>
            rw [remaining] at stepped
            cases stepped with
            | done result =>
                have keeps : KeepsTo (fun _ effect => ¬effect.Tells reqId) middle := by
                  intro other task held selections effect member
                  refine othersThen other task held selections effect member ?_
                  rintro rfl
                  rw [remaining] at held
                  cases held
                have silent := (told_eq_nil_of_run given (first.numbered numbered) keeps
                  (.inl (by omega)) few went).2
                refine ⟨fun _ => .error .noHealthyBackend, [], fun _ _ none => ?_, ?_, fun _ => rfl⟩
                · cases none
                · rw [told_cons, silent]
                  rfl
        | some task =>
            rw [remaining] at stepped
            obtain ⟨selections, left, answers, same, returned⟩ :=
              ih (first.numbered numbered) attendedThen othersThen (by omega) remaining went
            have notYet : (∃ result, (.returned result : Output Stream) ∈
                output :: shownBy worker events later) → left = [] := by
              rintro ⟨result, member⟩
              rcases List.mem_cons.mp member with rfl | member
              · cases stepped
              · exact returned ⟨result, member⟩
            cases stepped with
            | perform effect rest =>
                refine ⟨selections, left, answers, ?_, notYet⟩
                rw [told_cons, List.append_assoc, ← same]
                exact List.filter_append [effect] _
            | select rest result =>
                -- this selection has the result, and the others come after it
                let all (number : Nat) : MzaniResult SocketAddr :=
                  Nat.casesOn number result selections
                refine ⟨all, left, ?_, ?_, notYet⟩
                · intro number told found
                  cases number with
                  | zero => exact Option.some.inj found
                  | succ number => exact answers number told found
                · rw [told_cons]
                  exact same

/-! ## The whole run -/

/-- All records of calls are shown under the ids of these. -/
theorem records_told_of_run (snapshots : ∀ metrics, (snapshotRecord metrics).role = .metrics)
    (ran : (machine snapshotRecord).run server events = some (next, outputs)) :
    (outputs.flatMap Output.sends).filter (·.Traces reqId) =
      (told reqId outputs).filterMap Effect.record? := by
  refine @Transducer.run_relates _ _ _ (machine snapshotRecord) server next events outputs
    (fun _ _ outputs => (outputs.flatMap Output.sends).filter (·.Traces reqId) =
      (told reqId outputs).filterMap Effect.record?) (fun _ => rfl) ?_ ran
  intro state middle last event output rest taken later
  rw [List.flatMap_cons, List.filter_append, told_cons, List.filterMap_append, later]
  refine congrArg (· ++ _) ?_
  cases own : event.worker with
  | none =>
      have around := around_of_step own taken
      rw [around.effect?]
      refine List.filter_eq_nil_iff.mpr fun record member => ?_
      rw [decide_eq_true_eq]
      exact fun traces => around.role snapshots record member traces.1
  | some worker =>
      rw [sends_of_step own taken]
      cases output.effect? with
      | none => rfl
      | some effect =>
          cases effect with
          | emitLog record =>
              by_cases traces : record.Traces reqId
              · simp [Effect.record?, Effect.Tells, traces]
              · simp [Effect.record?, Effect.Tells, traces]
          | recordMetrics stats =>
              by_cases same : stats.reqId = reqId
              · simp [Effect.record?, Effect.Tells, same]
              · simp [Effect.record?, Effect.Tells, same]
          | _ => rfl

/-- The records and the statistics of the call, as far as the outputs go. -/
structure Trail (handled : Handled) (reqId : U64) (outputs : List (Output Stream))
    (rest : List Effect) : Prop where
  records : handled.records =
    (outputs.flatMap Output.sends).filter (·.Traces reqId) ++ rest.filterMap Effect.record?
  stats : handled.stats =
    (outputs.filterMap Output.records).filter (·.reqId = reqId) ++ rest.filterMap Effect.stats?

variable {texts : ReportTexts} {config : BalancerConfig} {openLog : String → MzaniResult Unit}
  {meets : Meets σ τ} {before after : List (Event Stream σ τ)}
  {earlier later : List (Output Stream)}

/-- All records that are sent and all statistics that are recorded under the id
of a call, in the whole run, are those of `handle_connection` for its connection,
with the backends that its worker is told, in the same order; none is missing
once the call has returned. -/
theorem trail_of_run (built : build config openLog = .ok server)
    (ran : (machine texts.snapshotRecord).run server before = some (middle, earlier))
    (began : middle.call worker meets = some (called, output))
    (went : (machine texts.snapshotRecord).run called after = some (next, later))
    (few : next.pool.handled.length ≤ u64Limit) :
    ∃ selections rest, Answers selections (Output.selections (shownBy worker after later)) ∧
      Trail
        (server.context.handleConnection meets.client (meets.surroundings selections)
          ⟨middle.pool.nextReqId, worker⟩)
        middle.pool.nextReqId (earlier ++ output :: later) rest ∧
      ((∃ result, .returned result ∈ shownBy worker after later) → rest = []) := by
  have started := started_of_build built
  have fresh : server.pool.Numbered := by
    obtain ⟨positive, spawned⟩ := started.pool
    rw [spawned]
    exact ThreadPool.invariant_spawn.numbered
  have first := evolves_of_run ran
  have numbered := first.numbered fresh
  have attended := (attended_of_started started).run ran
  obtain ⟨calling, longer, begun⟩ := begins_of_call began
  have grows := (evolves_of_run went).handled_le
  have given : GivenAt middle.pool.nextReqId middle.pool.handled.length :=
    ⟨by omega, numbered.upcoming⟩
  -- nothing is shown before the call, and nothing else is left to be shown
  obtain ⟨keeps, nothing⟩ := told_eq_nil_of_run given fresh (keepsTo_of_idle started.tasks)
    (.inr le_rfl) given.inRange.le ran
  have others : KeepsTo
      (fun other effect => other ≠ worker → ¬effect.Tells middle.pool.nextReqId) middle := by
    intro other task found selections effect member _
    exact keeps other task found selections effect member
  have own : middle.context.Keeps σ τ
      (fun effect => worker ≠ worker → ¬effect.Tells middle.pool.nextReqId)
      ⟨middle.pool.nextReqId, worker⟩ := fun client around effect member other =>
    absurd rfl other
  obtain ⟨othersThen, rfl⟩ := keeps_of_call others own began
  obtain ⟨selections, rest, answers, same, returned⟩ := told_of_run given
    ((evolves_call began).numbered numbered) (attended_of_turns attended (turns_of_call began))
    othersThen (by omega) begun few went
  have whole : told middle.pool.nextReqId (earlier ++ .quiet :: later) =
      told middle.pool.nextReqId later := by
    rw [told_append, nothing, told_cons]
    rfl
  have wholeRun : (machine texts.snapshotRecord).run server (before ++ .call worker meets :: after) =
      some (next, earlier ++ .quiet :: later) :=
    Transducer.run_append ran (Transducer.run_cons began went)
  have sameContext : middle.context = server.context := first.context
  rw [handled_meets, sameContext, ← whole] at same
  refine ⟨selections, rest, answers, ⟨?_, ?_⟩, returned⟩
  · rw [records_told_of_run (fun _ => rfl) wholeRun, ← List.filterMap_append, ← same]
    exact (records_filter_tells WorkerContext.allOf_handleConnection).symm
  · rw [stats_told, ← List.filterMap_append, ← same]
    exact (stats_filter_tells WorkerContext.allOf_handleConnection).symm

/-- Two workers. -/
def twoDesks : BalancerConfig :=
  { backends := ⟨[.v4 localhost 9004], by decide⟩
    pool := { workers := 2, perWorkerQueue := 1 }
    maxBackendRetries := 0 }

/-- Both workers have a connection. -/
def bothReady : List (Event Nat Source Source) :=
  [.accept 1 fun _ => .ok (), .submit, .submit, .submit, .work 0, .work 0,
    .accept 2 fun _ => .ok (), .submit, .submit, .submit, .work 1, .work 1]

/-- The second worker calls too, and the calls take turns. -/
def inTurns : List (Event Nat Source Source) :=
  .call 1 unreachable ::
    (List.replicate 9 [Event.work 1, Event.work 0]).flatten

/-- The events that are logged under the id. -/
def eventsUnder (reqId : U64) (outputs : List (Output Nat)) : List String :=
  ((outputs.flatMap Output.sends).filter (·.Traces reqId)).map (·.event)

theorem trail_of_run_inTurns :
    ∃ (server middle called next : Server Nat) (earlier later : List (Output Nat))
      (output : Output Nat) (selections : Nat → MzaniResult SocketAddr),
      (machine emptyTexts.snapshotRecord).run server bothReady = some (middle, earlier) ∧
        middle.call 0 unreachable = some (called, output) ∧
        (machine emptyTexts.snapshotRecord).run called inTurns = some (next, later) ∧
        (server.context.handleConnection unreachable.client (unreachable.surroundings selections)
          ⟨1, 0⟩).records.map (·.event) =
            ["connection_accepted", "backend_selected", "request_parsed", "backend_connect",
              "request_failed"] := by
  obtain ⟨server, built⟩ : ∃ server : Server Nat, build twoDesks (fun _ => .ok ()) = .ok server :=
    ⟨_, rfl⟩
  have shows : ((build twoDesks fun _ => .ok () : MzaniResult (Server Nat)).toOption.bind
      fun server => ((machine emptyTexts.snapshotRecord).run server bothReady).bind
        fun before => (before.1.call 0 unreachable).bind
          fun begun => ((machine emptyTexts.snapshotRecord).run begun.1 inTurns).map
            fun after =>
              (before.1.pool.nextReqId, after.1.pool.handled.length,
                eventsUnder 1 (before.2 ++ begun.2 :: after.2),
                (shownBy 0 inTurns after.2).any (!·.goesOn))) =
      some (1, 2,
        ["connection_accepted", "backend_selected", "request_parsed", "backend_connect",
          "request_failed"],
        true) := by
    decide +kernel
  rw [built] at shows
  obtain ⟨_, same, shows⟩ := Option.bind_eq_some_iff.mp shows
  obtain rfl := Option.some.inj same
  obtain ⟨⟨middle, earlier⟩, ran, shows⟩ := Option.bind_eq_some_iff.mp shows
  obtain ⟨⟨called, output⟩, began, shows⟩ := Option.bind_eq_some_iff.mp shows
  obtain ⟨⟨next, later⟩, went, shows⟩ := Option.map_eq_some_iff.mp shows
  obtain ⟨number, shows⟩ := Prod.mk.inj shows
  obtain ⟨handled, shows⟩ := Prod.mk.inj shows
  obtain ⟨events, ended⟩ := Prod.mk.inj shows
  have few : next.pool.handled.length ≤ u64Limit := by
    dsimp only at handled
    rw [handled]
    decide
  obtain ⟨selections, rest, _, trail, returned⟩ := trail_of_run built ran began went few
  have returns : ∃ result, .returned result ∈ shownBy 0 inTurns later := by
    obtain ⟨last, member, stops⟩ := List.any_eq_true.mp ended
    cases last with
    | returned result => exact ⟨result, member⟩
    | _ => cases stops
  refine ⟨server, middle, called, next, earlier, later, output, selections, ran, began, went, ?_⟩
  have records := trail.records
  rw [returned returns, List.filterMap_nil, List.append_nil] at records
  dsimp only at number
  rw [number] at records
  rw [records]
  exact events

end Server

end Mzani
