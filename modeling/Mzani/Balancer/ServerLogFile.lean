import Mzani.Balancer.ServerTasks
import Mzani.Utils.Logger

/-!
# The log file of a server

All records that a running server sends are those that the program builds, so its
log file is read back line by line.
-/

namespace Mzani

open Support

variable {Stream : Type}

/-! ## What a run sends -/

namespace Server

variable {σ τ : Type} [Read σ] [Read τ] {snapshotRecord : Metrics → LogRecord}
  {server next : Server Stream} {output : Output Stream}

theorem Around.built (around : Around snapshotRecord output)
    (snapshots : ∀ metrics, Built (snapshotRecord metrics)) :
    ∀ record ∈ output.sends, Built record := by
  intro record member
  cases around with
  | answered stream bytes =>
      simp only [Output.sends] at member
      split at member
      · rw [List.mem_singleton.mp member]
        exact ⟨.poolSaturated, rfl⟩
      · cases member
  | logged entry => exact ⟨entry, (List.mem_singleton.mp member).symm⟩
  | reported stats => exact ⟨.metricsRecord stats, (List.mem_singleton.mp member).symm⟩
  | snapshot metrics =>
      rw [List.mem_singleton.mp member]
      exact snapshots metrics
  | probed probe built =>
      obtain ⟨recovered, addr, rfl⟩ := built record member
      exact ⟨.health recovered addr, rfl⟩
  | _ => cases member

/-- All records of a step are built by the program, if those of calls are. -/
theorem sends_built_of_step [DecidableEq Stream] {event : Event Stream σ τ}
    (snapshots : ∀ metrics, Built (snapshotRecord metrics))
    (effects : ∀ effect ∈ output.effect?, effect.Built)
    (taken : server.step snapshotRecord event = some (next, output)) :
    ∀ record ∈ output.sends, Built record := by
  intro record member
  cases own : event.worker with
  | none => exact (around_of_step own taken).built snapshots record member
  | some worker =>
      rw [sends_of_step own taken] at member
      obtain ⟨effect, shown, emitted⟩ := Option.bind_eq_some_iff.mp (Option.mem_toList.mp member)
      have built := effects effect shown
      cases effect with
      | emitLog other =>
          cases emitted
          exact built
      | _ => cases emitted

/-- All records that a running server sends are built by the program. -/
theorem sends_built_of_run [DecidableEq Stream] {events : List (Event Stream σ τ)}
    {outputs : List (Output Stream)} (snapshots : ∀ metrics, Built (snapshotRecord metrics))
    (idle : server.tasks = fun _ => none)
    (ran : (machine snapshotRecord).run server events = some (next, outputs)) :
    ∀ record ∈ outputs.flatMap Output.sends, Built record := by
  have context : ∀ req, server.context.Keeps σ τ Effect.Built req := fun req client around =>
    WorkerContext.allBuilt_handleConnection
  refine @Transducer.run_relates _ _ _ (machine snapshotRecord) server next events outputs
    (fun _ _ outputs => (∀ effect ∈ outputs.filterMap Output.effect?, effect.Built) →
      ∀ record ∈ outputs.flatMap Output.sends, Built record) ?_ ?_ ran
    (performed_of_run context (keepsTo_of_idle idle) ran)
  · intro _ _ record none
    cases none
  · intro state middle last event output rest taken later effects record member
    rcases List.mem_append.mp (List.flatMap_cons ▸ member) with here | after
    · refine sends_built_of_step snapshots (fun effect shown => ?_) taken record here
      exact effects effect (List.mem_filterMap.mpr ⟨output, List.mem_cons_self, shown⟩)
    · refine later (fun effect listed => ?_) record after
      obtain ⟨shown, among, found⟩ := List.mem_filterMap.mp listed
      exact effects effect
        (List.mem_filterMap.mpr ⟨shown, List.mem_cons_of_mem output among, found⟩)

/-- All records that reach the file of a running server are built by the
program. -/
theorem writes_built_of_run [DecidableEq Stream] {config : BalancerConfig}
    {openLog : String → MzaniResult Unit} {events : List (Event Stream σ τ)}
    {outputs : List (Output Stream)} (snapshots : ∀ metrics, Built (snapshotRecord metrics))
    (built : build config openLog = .ok server)
    (ran : (machine snapshotRecord).run server events = some (next, outputs)) :
    ∀ record ∈ outputs.filterMap Output.writes, Built record := by
  intro record member
  obtain ⟨taken, sublist, _, order⟩ := order_of_run built ran
  have inLog : record ∈
      serverStart config.listen config.backends.val config.pool.workers.val :: taken := by
    rw [← order]
    exact List.mem_append_left _ member
  rcases List.mem_cons.mp inLog with rfl | later
  · exact ⟨.serverStart config.listen config.backends.val config.pool.workers.val, rfl⟩
  · exact sends_built_of_run snapshots (started_of_build built).tasks ran record
      (sublist.subset later)

end Server

/-! ## Names of records -/

namespace LogRecord

variable {record : LogRecord} {key : String}

@[simp] theorem plain_new {level : LogLevel} {event : String} {role : LogRole} :
    (new level event role).Plain ↔ needsQuotes event.toList = false :=
  ⟨Plain.event, fun event => ⟨event, List.forall_mem_nil _⟩⟩

@[simp] theorem plain_withRequest {req : RequestContext} :
    (record.withRequest req).Plain ↔ record.Plain :=
  ⟨fun plain => ⟨plain.event, plain.keys⟩, fun plain => ⟨plain.event, plain.keys⟩⟩

theorem plain_field (plainKey : PlainKey key.toList) {value : Text} :
    (record.field key value).Plain ↔ record.Plain := by
  constructor
  · rintro ⟨event, keys⟩
    exact ⟨event, (List.forall_mem_append.mp keys).1⟩
  · rintro ⟨event, keys⟩
    refine ⟨event, List.forall_mem_append.mpr ⟨keys, ?_⟩⟩
    exact List.forall_mem_singleton.mpr plainKey

theorem plain_fieldIf (plainKey : PlainKey key.toList) {value : Option Text} :
    (record.fieldIf key value).Plain ↔ record.Plain := by
  cases value with
  | none => exact Iff.rfl
  | some text => exact plain_field plainKey

end LogRecord

/-- All names in the records of the program stand for themselves. -/
theorem LogEntry.plain (entry : LogEntry) : entry.record.Plain := by
  cases entry with
  | health recovered addr =>
      cases recovered <;>
        simp (disch := decide) [record, BackendSet.healthRecord, LogRecord.plain_field] <;> decide
  | _ =>
      simp (disch := decide) [record, Mzani.serverStart, logAcceptEvent, Mzani.connectionAccepted,
        Mzani.backendSelected, Mzani.requestParsed, Mzani.backendConnect, Mzani.requestFailed,
        Mzani.requestComplete, Mzani.slowRequest, RequestStats.toMetricsRecord,
        ReportTexts.snapshotRecord, Mzani.logDropped, LogRecord.plain_field,
        LogRecord.plain_fieldIf]
      decide

/-! ## The file -/

namespace Server

variable {σ τ : Type} [DecidableEq Stream] [Read σ] [Read τ] {texts : ReportTexts}
  {config : BalancerConfig} {openLog : String → MzaniResult Unit} {server next : Server Stream}
  {events : List (Event Stream σ τ)} {outputs : List (Output Stream)}

/-- Only warnings and errors are wanted. -/
def onlyWarnings : Environment := fun name =>
  if name = "MZANI_LOG" then some ⟨"Warn".toList, by decide⟩ else none

/-- Texts for reports without their numbers. -/
def emptyTexts : ReportTexts where
  uptime := []
  requestsPerSecond := []
  scaled := fun _ => []
  order := fun entries => ⟨entries, .refl entries⟩

/-- The records that reach the file while `twoErrors` happen. -/
def errorLog : List (LogRecord × Nat) :=
  [(serverStart (.v4 localhost 8080) [.v4 localhost 9001] 1, 5),
    ((LogEntry.acceptError ⟨.other, "second"⟩ (.v4 localhost 8080)).record, 7)]

end Server

end Mzani
