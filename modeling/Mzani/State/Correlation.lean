import Mzani.State.HandleConnection

/-!
# Correlation

Everything that a call of `handle_connection` logs and counts carries the
identifiers of its request.
-/

namespace Mzani

open Support

/-- The identifiers of a record of a worker. -/
structure LogRecord.Of (record : LogRecord) (req : RequestContext) : Prop where
  reqId : record.reqId = some req.reqId
  workerId : record.workerId = some req.workerId
  role : record.role = .worker

/-- What the effect shows carries the identifiers. -/
def Effect.Of (effect : Effect) (req : RequestContext) : Prop :=
  match effect with
  | .emitLog record => record.Of req
  | .recordMetrics stats => stats.reqId = req.reqId ∧ stats.workerId = req.workerId
  | _ => True

namespace LogRecord

variable {record : LogRecord} {req : RequestContext} {key : String}

theorem of_withRequest {level : LogLevel} {event : String} :
    ((new level event .worker).withRequest req).Of req :=
  ⟨rfl, rfl, rfl⟩

@[simp] theorem of_field {value : Text} : (record.field key value).Of req ↔ record.Of req :=
  ⟨fun carries => ⟨carries.reqId, carries.workerId, carries.role⟩,
    fun carries => ⟨carries.reqId, carries.workerId, carries.role⟩⟩

@[simp] theorem of_fieldIf {value : Option Text} :
    (record.fieldIf key value).Of req ↔ record.Of req := by
  cases value with
  | none => exact Iff.rfl
  | some text => exact of_field

end LogRecord

namespace WorkerContext

variable {σ τ : Type} {context : WorkerContext} {client : ClientSocket σ}
  {around : Surroundings τ} {req : RequestContext}

/-- All effects carry the identifiers. -/
def AllOf (effects : List Effect) (req : RequestContext) : Prop :=
  ∀ effect ∈ effects, effect.Of req

theorem AllOf.append {effects more : List Effect} (first : AllOf effects req)
    (second : AllOf more req) : AllOf (effects ++ more) req :=
  List.forall_mem_append.mpr ⟨first, second⟩

@[simp] theorem allOf_nil : AllOf [] req := List.forall_mem_nil _

@[simp] theorem allOf_cons {effect : Effect} {effects : List Effect} :
    AllOf (effect :: effects) req ↔ effect.Of req ∧ AllOf effects req :=
  List.forall_mem_cons

theorem allOf_respond (answer : Answer) : AllOf (client.respond answer) req := by
  unfold ClientSocket.respond
  split
  · simp [Effect.Of]
  · split <;> simp [Effect.Of]

theorem allOf_failure (elapsed : Duration) (stage : String) (error : Text) :
    AllOf (failure req elapsed stage error) req := by
  simp [failure, Effect.Of, requestFailed, LogRecord.of_withRequest]

theorem allOf_untilAccepted : AllOf (untilAccepted context client req) req := by
  simp [untilAccepted, Effect.Of, connectionAccepted, LogRecord.of_withRequest]

theorem allOf_untilSelected (target : SocketAddr) :
    AllOf (untilSelected context client req target) req := by
  simp [untilSelected, Effect.Of, connectionAccepted, backendSelected, LogRecord.of_withRequest]

theorem allOf_untilProxied (target : SocketAddr) (request : Request) (attempts : List Attempt) :
    AllOf (untilProxied context client req target request attempts) req := by
  simp [untilProxied, Effect.Of, connectionAccepted, backendSelected, requestParsed, backendConnect,
    LogRecord.of_withRequest]

theorem allOf_complete (clock : Nat → Duration) (target : SocketAddr) (requestLen : Nat)
    (response : Bytes) :
    AllOf (context.complete clock req target requestLen response).effects req := by
  unfold complete
  dsimp only
  split <;> simp [Effect.Of, completeStats, requestComplete, slowRequest, LogRecord.of_withRequest]

/-- Everything that a call logs and counts carries the identifiers of its request. -/
theorem allOf_handleConnection [Read σ] [Read τ] :
    AllOf (context.handleConnection client around req).effects req := by
  have ends : Ends context client around req
      (context.handleConnection client around req) := handleConnection_ends
  generalize context.handleConnection client around req = handled at ends
  cases ends with
  | setTimeout => exact allOf_failure _ _ _
  | noBackend =>
      apply allOf_untilAccepted.append
      exact (allOf_respond _).append (allOf_failure _ _ _)
  | routing => exact allOf_untilAccepted
  | bodyLimit =>
      apply (allOf_untilSelected _).append
      exact (allOf_respond _).append (allOf_failure _ _ _)
  | parse => exact (allOf_untilSelected _).append (allOf_failure _ _ _)
  | proxy =>
      apply (allOf_untilProxied _ _ _).append
      apply (allOf_failure _ _ _).append
      simp [Effect.Of, failedStats]
  | clientWrite =>
      apply (allOf_untilProxied _ _ _).append
      exact allOf_cons.mpr ⟨trivial, allOf_failure _ _ _⟩
  | clientFlush =>
      apply (allOf_untilProxied _ _ _).append
      exact allOf_cons.mpr ⟨trivial, allOf_failure _ _ _⟩
  | clientShutdown =>
      apply (allOf_untilProxied _ _ _).append
      exact allOf_cons.mpr ⟨trivial, allOf_cons.mpr ⟨trivial, allOf_failure _ _ _⟩⟩
  | complete =>
      apply (allOf_untilProxied _ _ _).append
      exact allOf_cons.mpr ⟨trivial, allOf_cons.mpr ⟨trivial, allOf_complete _ _ _ _⟩⟩

end WorkerContext

end Mzani
