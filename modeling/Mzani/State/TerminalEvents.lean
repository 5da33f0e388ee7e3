import Mzani.State.ConcurrentCalls
import Mzani.State.HandleConnection

/-!
# Terminal events

Every call of `handle_connection` ends with one terminal record, which agrees
with its result, its answer and its statistics.
-/

namespace Mzani

open Support

/-! ## What a call shows -/

def Effect.record? : Effect → Option LogRecord
  | .emitLog record => some record
  | _ => none

def Effect.stats? : Effect → Option RequestStats
  | .recordMetrics stats => some stats
  | _ => none

def Effect.answer? : Effect → Option (Answer × Bytes)
  | .write answer got => some (answer, got)
  | _ => none

def Effect.attempts? : Effect → Option (List Attempt)
  | .proxy attempts => some attempts
  | _ => none

namespace Handled

variable (handled : Handled)

/-- The records that it emits. -/
def records : List LogRecord :=
  handled.effects.filterMap Effect.record?

/-- The statistics that it records. -/
def stats : List RequestStats :=
  handled.effects.filterMap Effect.stats?

/-- The answers that it writes, with what the client gets of them. -/
def answers : List (Answer × Bytes) :=
  handled.effects.filterMap Effect.answer?

/-- The calls of `proxy_with_retries`. -/
def proxied : List (List Attempt) :=
  handled.effects.filterMap Effect.attempts?

end Handled

/-- `request_failed` or `request_complete` -/
def LogRecord.isTerminal (record : LogRecord) : Bool :=
  record.event = "request_failed" || record.event = "request_complete"

/-- What holds of one connection: one terminal record, `Ok` exactly with
`request_complete`, one answer at most, and at most one set of statistics,
whose outcome tells the completed requests and the failures of proxying. -/
structure OneTerminalEvent (handled : Handled) : Prop where
  terminal : handled.records.countP (·.isTerminal) = 1
  okIff : handled.result = .ok () ↔
    ∃ record ∈ handled.records, record.event = "request_complete"
  answers : handled.answers.length ≤ 1
  stats : handled.stats.length ≤ 1
  statsOk : (∃ stats ∈ handled.stats, stats.outcome = .ok) ↔
    ∃ record ∈ handled.records, record.event = "request_complete"
  statsError : (∃ stats ∈ handled.stats, stats.outcome = .error) ↔
    ∃ record ∈ handled.records, record.event = "request_failed" ∧
      record.value "stage" = some "proxy".toList

/-! ## The records -/

section

variable (req : RequestContext)

@[simp] theorem event_field (record : LogRecord) (key : String) (value : Text) :
    (record.field key value).event = record.event := rfl

@[simp] theorem event_fieldIf (record : LogRecord) (key : String) (value : Option Text) :
    (record.fieldIf key value).event = record.event := by
  cases value <;> rfl

@[simp] theorem event_connectionAccepted (client : Text) (listen : SocketAddr) :
    (connectionAccepted req client listen).event = "connection_accepted" := rfl

@[simp] theorem event_backendSelected (target : SocketAddr) :
    (backendSelected req target).event = "backend_selected" := rfl

@[simp] theorem event_requestParsed (request : Request) :
    (requestParsed req request).event = "request_parsed" := by
  simp [requestParsed, LogRecord.withRequest, LogRecord.new]

@[simp] theorem event_backendConnect (target : SocketAddr) :
    (backendConnect req target).event = "backend_connect" := rfl

@[simp] theorem event_requestFailed (elapsed : Duration) (stage : String) (error : Text) :
    (requestFailed req elapsed stage error).event = "request_failed" := rfl

@[simp] theorem event_requestComplete (target : SocketAddr) (requestLen responseLen : Nat)
    (duration : Duration) (statusCode : Option Nat) :
    (requestComplete req target requestLen responseLen duration statusCode).event =
      "request_complete" := by
  simp [requestComplete, LogRecord.withRequest, LogRecord.new]

@[simp] theorem event_slowRequest (duration threshold : Duration) :
    (slowRequest req duration threshold).event = "slow_request" := rfl

@[simp] theorem stage_requestFailed (elapsed : Duration) (stage : String) (error : Text) :
    (requestFailed req elapsed stage error).value "stage" = some stage.toList := by
  simp [requestFailed, LogRecord.value, LogRecord.field, LogRecord.withRequest,
    LogRecord.new]

end

/-! ## The effects -/

/-- Effects before the end: no terminal record, no statistics and one answer at
most. -/
structure Quiet (effects : List Effect) : Prop where
  records : ∀ record ∈ effects.filterMap Effect.record?, record.isTerminal = false
  stats : effects.filterMap Effect.stats? = []
  answers : (effects.filterMap Effect.answer?).length ≤ 1

/-- Effects that also leave the client without an answer. -/
structure Silent (effects : List Effect) : Prop extends Quiet effects where
  unanswered : effects.filterMap Effect.answer? = []

section

variable {effects more : List Effect}

theorem Silent.append (silent : Silent effects) (quiet : Quiet more) :
    Quiet (effects ++ more) := by
  constructor
  · intro record member
    rw [List.filterMap_append] at member
    rcases List.mem_append.mp member with before | after
    · exact silent.records record before
    · exact quiet.records record after
  · rw [List.filterMap_append, silent.stats, quiet.stats]
    rfl
  · rw [List.filterMap_append, silent.unanswered, List.nil_append]
    exact quiet.answers

theorem quiet_respond {σ : Type} (client : ClientSocket σ) (answer : Answer) :
    Quiet (client.respond answer) := by
  unfold ClientSocket.respond
  split
  · constructor <;> simp [Effect.record?, Effect.stats?, Effect.answer?]
  · split
    · constructor <;> simp [Effect.record?, Effect.stats?, Effect.answer?]
    · constructor <;> simp [Effect.record?, Effect.stats?, Effect.answer?]

end

namespace WorkerContext

section

variable {σ : Type} (context : WorkerContext) (client : ClientSocket σ) (req : RequestContext)

theorem silent_untilAccepted : Silent (untilAccepted context client req) := by
  refine ⟨⟨?_, rfl, Nat.zero_le 1⟩, rfl⟩
  simp [untilAccepted, Effect.record?, LogRecord.isTerminal]

theorem silent_untilSelected (target : SocketAddr) :
    Silent (untilSelected context client req target) := by
  refine ⟨⟨?_, rfl, Nat.zero_le 1⟩, rfl⟩
  simp [untilSelected, Effect.record?, LogRecord.isTerminal]

theorem silent_untilProxied (target : SocketAddr) (request : Request)
    (attempts : List Attempt) :
    Silent (untilProxied context client req target request attempts) := by
  refine ⟨⟨?_, rfl, Nat.zero_le 1⟩, rfl⟩
  simp [untilProxied, Effect.record?, LogRecord.isTerminal]

end

end WorkerContext

/-! ## The ends -/

section

variable {effects ending : List Effect} {result : MzaniResult Unit} (req : RequestContext)

/-- What comes before the end adds no terminal record. -/
theorem exists_record_append (quiet : Quiet effects) {holds : LogRecord → Prop}
    (terminal : ∀ record, holds record → record.isTerminal = true) :
    (∃ record ∈ (effects ++ ending).filterMap Effect.record?, holds record) ↔
      ∃ record ∈ ending.filterMap Effect.record?, holds record := by
  constructor
  · rintro ⟨record, member, held⟩
    rw [List.filterMap_append] at member
    rcases List.mem_append.mp member with before | after
    · have notTerminal := quiet.records record before
      rw [terminal record held] at notTerminal
      cases notTerminal
    · exact ⟨record, after, held⟩
  · rintro ⟨record, member, held⟩
    refine ⟨record, ?_, held⟩
    rw [List.filterMap_append]
    exact List.mem_append_right _ member

theorem OneTerminalEvent.prepend (quiet : Quiet effects)
    (ends : OneTerminalEvent { effects := ending, result })
    (unanswered : ending.filterMap Effect.answer? = []) :
    OneTerminalEvent { effects := effects ++ ending, result } := by
  have complete : ∀ record : LogRecord, record.event = "request_complete" →
      record.isTerminal = true := by
    intro record event
    simp [LogRecord.isTerminal, event]
  have failed : ∀ record : LogRecord, record.event = "request_failed" ∧
      record.value "stage" = some "proxy".toList → record.isTerminal = true := by
    rintro record ⟨event, _⟩
    simp [LogRecord.isTerminal, event]
  have sameStats : (effects ++ ending).filterMap Effect.stats? =
      ending.filterMap Effect.stats? := by
    rw [List.filterMap_append, quiet.stats, List.nil_append]
  constructor
  · have none : (effects.filterMap Effect.record?).countP (·.isTerminal) = 0 := by
      apply List.countP_eq_zero.mpr
      intro record member
      simp [quiet.records record member]
    rw [Handled.records, List.filterMap_append, List.countP_append, none, Nat.zero_add]
    exact ends.terminal
  · exact ends.okIff.trans (exists_record_append quiet complete).symm
  · rw [Handled.answers, List.filterMap_append, unanswered, List.append_nil]
    exact quiet.answers
  · rw [Handled.stats, sameStats]
    exact ends.stats
  · rw [Handled.stats, sameStats]
    exact ends.statsOk.trans (exists_record_append quiet complete).symm
  · rw [Handled.stats, sameStats]
    exact ends.statsError.trans (exists_record_append quiet failed).symm

/-- The same with an answer in between. -/
theorem OneTerminalEvent.prependAnswer {writing : List Effect} (silent : Silent effects)
    (quiet : Quiet writing) (ends : OneTerminalEvent { effects := ending, result })
    (unanswered : ending.filterMap Effect.answer? = []) :
    OneTerminalEvent { effects := effects ++ (writing ++ ending), result } := by
  rw [← List.append_assoc]
  exact ends.prepend (silent.append quiet) unanswered

theorem oneTerminalEvent_failure (elapsed : Duration) {stage : String}
    (notProxy : stage ≠ "proxy") (text : Text) (error : MzaniError) :
    OneTerminalEvent
      { effects := WorkerContext.failure req elapsed stage text, result := .error error } := by
  have otherStage : stage.toList ≠ "proxy".toList := fun same =>
    notProxy (String.toList_inj.mp same)
  simp only [String.reduceToList] at otherStage
  constructor <;>
    simp [WorkerContext.failure, Handled.records, Handled.stats, Handled.answers,
      List.filterMap_cons, Effect.record?, Effect.stats?, Effect.answer?,
      LogRecord.isTerminal, otherStage]

theorem oneTerminalEvent_proxy (elapsed : Duration) (text : Text) (error : MzaniError)
    (target : SocketAddr) (requestLen : Nat) (duration : Duration) :
    OneTerminalEvent
      { effects := WorkerContext.failure req elapsed "proxy" text ++
          [.recordMetrics (failedStats req target requestLen duration)]
        result := .error error } := by
  constructor <;>
    simp [WorkerContext.failure, Handled.records, Handled.stats, Handled.answers,
      List.filterMap_cons, Effect.record?, Effect.stats?, Effect.answer?,
      LogRecord.isTerminal, failedStats]

theorem unanswered_afterDelivery {τ : Type} (context : WorkerContext)
    (around : Surroundings τ) (target : SocketAddr) (request : Request) (response : Bytes) :
    (WorkerContext.afterDelivery context around req target request response).filterMap
      Effect.answer? = [] := by
  unfold WorkerContext.afterDelivery WorkerContext.complete
  dsimp only
  split <;> rfl

theorem oneTerminalEvent_complete {τ : Type} (context : WorkerContext)
    (around : Surroundings τ) (target : SocketAddr) (request : Request) (response : Bytes) :
    OneTerminalEvent
      { effects := WorkerContext.afterDelivery context around req target request response
        result := .ok () } := by
  unfold WorkerContext.afterDelivery WorkerContext.complete
  dsimp only
  split
  · constructor <;>
      simp [Handled.records, Handled.stats, Handled.answers, List.filterMap_cons,
        Effect.record?, Effect.stats?, Effect.answer?, LogRecord.isTerminal, completeStats]
  · constructor <;>
      simp [Handled.records, Handled.stats, Handled.answers, List.filterMap_cons,
        Effect.record?, Effect.stats?, Effect.answer?, LogRecord.isTerminal, completeStats]

end

theorem quiet_write (answer : Answer) (got : Bytes) : Quiet [.write answer got] := by
  constructor <;> simp [List.filterMap_cons, Effect.record?, Effect.stats?, Effect.answer?]

theorem quiet_writeShutdown (answer : Answer) (got : Bytes) :
    Quiet [.write answer got, .shutdownWrite] := by
  constructor <;> simp [List.filterMap_cons, Effect.record?, Effect.stats?, Effect.answer?]

/-- Each way out has its terminal record. -/
theorem oneTerminalEvent_of_ends {σ τ : Type} [Read σ] [Read τ] {context : WorkerContext}
    {client : ClientSocket σ} {around : Surroundings τ} {req : RequestContext}
    {handled : Handled}
    (routed : around.selected = .error .noHealthyBackend ∨
      ∃ addr, around.selected = .ok addr)
    (ends : WorkerContext.Ends context client around req handled) :
    OneTerminalEvent handled := by
  cases ends with
  | setTimeout failed =>
      exact oneTerminalEvent_failure req (around.clock 0) (by decide) _ _
  | noBackend timeoutSet none =>
      apply OneTerminalEvent.prependAnswer (WorkerContext.silent_untilAccepted context client req)
        (quiet_respond client _) _ rfl
      exact oneTerminalEvent_failure req (around.clock 0) (by decide) _ _
  | routing timeoutSet failed other =>
      rcases routed with noHealthy | ⟨addr, selected⟩
      · rw [failed, Except.error.injEq] at noHealthy
        exact absurd noHealthy other
      · rw [failed] at selected
        cases selected
  | bodyLimit selects tooLarge =>
      apply OneTerminalEvent.prependAnswer (WorkerContext.silent_untilSelected context client req _)
        (quiet_respond client _) _ rfl
      exact oneTerminalEvent_failure req (around.clock 0) (by decide) _ _
  | parse selects failed other =>
      apply OneTerminalEvent.prepend (WorkerContext.silent_untilSelected context client req _).toQuiet _ rfl
      exact oneTerminalEvent_failure req (around.clock 0) (by decide) _ _
  | proxy proxies =>
      apply OneTerminalEvent.prepend (WorkerContext.silent_untilProxied context client req _ _ _).toQuiet
        _ rfl
      exact oneTerminalEvent_proxy req (around.clock 0) _ _ _ _ _
  | clientWrite proxies broken =>
      apply OneTerminalEvent.prependAnswer (WorkerContext.silent_untilProxied context client req _ _ _)
        (quiet_write _ _) _ rfl
      exact oneTerminalEvent_failure req (around.clock 0) (by decide) _ _
  | clientFlush proxies written broken =>
      apply OneTerminalEvent.prependAnswer (WorkerContext.silent_untilProxied context client req _ _ _)
        (quiet_write _ _) _ rfl
      exact oneTerminalEvent_failure req (around.clock 0) (by decide) _ _
  | clientShutdown proxies written flushed broken =>
      apply OneTerminalEvent.prependAnswer (WorkerContext.silent_untilProxied context client req _ _ _)
        (quiet_writeShutdown _ _) _ rfl
      exact oneTerminalEvent_failure req (around.clock 0) (by decide) _ _
  | complete proxies written flushed done =>
      apply OneTerminalEvent.prependAnswer (WorkerContext.silent_untilProxied context client req _ _ _)
        (quiet_writeShutdown _ _) _ (unanswered_afterDelivery req context around _ _ _)
      exact oneTerminalEvent_complete req context around _ _ _

/-- One connection, one terminal event: whatever the client, the backends and the
sockets do, as long as there are backends to select from. -/
theorem handleConnection_oneTerminalEvent {σ τ : Type} [Read σ] [Read τ] (set : BackendSet)
    (nonempty : set.entries.val ≠ [])
    (context : WorkerContext) (client : ClientSocket σ) (around : Surroundings τ)
    (req : RequestContext)
    (routed : set.Returns around.selected) :
    OneTerminalEvent (context.handleConnection client around req) := by
  exact oneTerminalEvent_of_ends (routed.cases nonempty) WorkerContext.handleConnection_ends

/-- The defaults, with one retry. -/
def frontContext : WorkerContext where
  limits := {}
  timeouts := {}
  maxBackendRetries := 1
  socketAddr := .v4 localhost 8080

/-- A client that sends these bytes and takes everything. -/
def sender (bytes : Bytes) : ClientSocket (List Item) where
  setReadTimeout := fun _ => .ok ()
  peerAddr := .ok (.v4 localhost 50000)
  stream := bytes.map .byte
  breaks := none
  flush := .ok ()
  shutdown := .ok ()

/-- The first of two healthy backends is selected; it fails, the second one
answers. -/
def failover : Surroundings (List Item) where
  selected := (BackendSet.new BackendSet.pair.backends).selectNext.1
  network := slowFirst
  clock := fun _ => 1000000

set_option maxRecDepth 4000 in
theorem handleConnection_oneTerminalEvent_failover :
    (frontContext.handleConnection (sender payment) failover ⟨1, 0⟩).result = .ok () ∧
      OneTerminalEvent (frontContext.handleConnection (sender payment) failover ⟨1, 0⟩) :=
  ⟨by decide +kernel,
    handleConnection_oneTerminalEvent (BackendSet.new BackendSet.pair.backends) (by decide)
      frontContext (sender payment) failover ⟨1, 0⟩ (BackendSet.returns_selectNext _)⟩

end Mzani
