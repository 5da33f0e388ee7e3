import Mzani.Core.RequestFraming
import Mzani.State.Health
import Mzani.State.MetricsReport
import Mzani.State.Observability
import Mzani.Utils.LogLine

/-!
# One record, one line

All records that the program builds, and when the line of one is a line of its
own: the header values that are logged, the texts of errors and the report of
the metrics reach the line with their line breaks.
-/

namespace Mzani

open Support

/-- A request that a client can send. -/
def FromClient (request : Request) : Prop :=
  ∃ (σ : Type) (_ : Read σ) (limits : Limits) (stream : σ),
    (Request.fromStream limits stream).1 = .ok request

/-- `log_accept_event` -/
def logAcceptEvent (event : String) (level : LogLevel) (fields : List (String × Text)) :
    LogRecord :=
  fields.foldl (fun record field => record.field field.1 field.2) (.new level event .accept)

/-- The stages at which `log_request_failed` gets an error. -/
inductive FailedStage where
  | setTimeout
  | parse
  | proxy
  | clientWrite
  | clientFlush
  | clientShutdown
  deriving DecidableEq

def FailedStage.asStr : FailedStage → String
  | .setTimeout => "set_timeout"
  | .parse => "parse"
  | .proxy => "proxy"
  | .clientWrite => "client_write"
  | .clientFlush => "client_flush"
  | .clientShutdown => "client_shutdown"

/-- The places where the program builds a record, with what it is built from. -/
inductive LogEntry where
  | serverStart (listen : SocketAddr) (backends : List SocketAddr) (workers : Nat)
  | acceptError (error : IoError) (listen : SocketAddr)
  | acceptReadTimeoutSetFailed (error : IoError)
  | poolSubmitError (error : MzaniError)
  | poolSaturated
  | connectionAccepted (req : RequestContext) (peer : Option SocketAddr)
      (listen : SocketAddr)
  | noBackend (req : RequestContext) (elapsed : Duration)
  | backendSelected (req : RequestContext) (target : SocketAddr)
  | bodyLimit (req : RequestContext) (elapsed : Duration)
  | requestParsed (req : RequestContext) (request : Request) (sent : FromClient request)
  | backendConnect (req : RequestContext) (target : SocketAddr)
  | requestFailed (req : RequestContext) (elapsed : Duration) (stage : FailedStage)
      (error : MzaniError)
  | requestComplete (req : RequestContext) (target : SocketAddr)
      (requestLen responseLen : Nat) (duration : Duration) (statusCode : Option Nat)
  | slowRequest (req : RequestContext) (duration threshold : Duration)
  | metricsRecord (stats : RequestStats)
  | metricsSnapshot (texts : ReportTexts) (metrics : Metrics)
  | health (recovered : Bool) (addr : SocketAddr)
  | logDropped (count : U64)

namespace LogEntry

def record : LogEntry → LogRecord
  | .serverStart listen backends workers => Mzani.serverStart listen backends workers
  | .acceptError error listen =>
      logAcceptEvent "accept_error" .error
        [("error", error.message.toList), ("listen", formatAddr listen)]
  | .acceptReadTimeoutSetFailed error =>
      logAcceptEvent "accept_read_timeout_set_failed" .warn [("error", error.message.toList)]
  | .poolSubmitError error =>
      logAcceptEvent "pool_submit_error" .warn [("error", error.display)]
  | .poolSaturated => logAcceptEvent "pool_saturated" .warn []
  | .connectionAccepted req peer listen =>
      Mzani.connectionAccepted req (peer.elim "-".toList formatAddr) listen
  | .noBackend req elapsed =>
      Mzani.requestFailed req elapsed "no_backend" "no healthy backends".toList
  | .backendSelected req target => Mzani.backendSelected req target
  | .bodyLimit req elapsed =>
      Mzani.requestFailed req elapsed "body_limit" "body too large".toList
  | .requestParsed req request _ => Mzani.requestParsed req request
  | .backendConnect req target => Mzani.backendConnect req target
  | .requestFailed req elapsed stage error =>
      Mzani.requestFailed req elapsed stage.asStr error.display
  | .requestComplete req target requestLen responseLen duration statusCode =>
      Mzani.requestComplete req target requestLen responseLen duration statusCode
  | .slowRequest req duration threshold => Mzani.slowRequest req duration threshold
  | .metricsRecord stats => stats.toMetricsRecord ⟨stats.reqId, stats.workerId⟩
  | .metricsSnapshot texts metrics => texts.snapshotRecord metrics
  | .health recovered addr => BackendSet.healthRecord recovered addr
  | .logDropped count => Mzani.logDropped count

/-- The texts from outside that the record shows are on one line; the report of
a snapshot never is. -/
def Clean : LogEntry → Prop
  | .requestParsed _ request _ =>
      ∀ name ∈ ["host", "user-agent", "x-request-id"], ∀ value,
        headerField request.headers name.toList = some value → OneLine value
  | .requestFailed _ _ _ error | .poolSubmitError error => OneLine error.display
  | .acceptError error _ | .acceptReadTimeoutSetFailed error => OneLine error.message.toList
  | .metricsSnapshot _ _ => False
  | _ => True

end LogEntry

/-! ## Texts of a record -/

/-- Method and path are words of the start line. -/
theorem FromClient.oneLine {request : Request} (sent : FromClient request) :
    OneLine request.method.asStr ∧ OneLine request.path := by
  obtain ⟨σ, read, limits, stream, answer⟩ := sent
  have parsed : parseHead request.rawHead =
      .ok (request.method, request.path, request.headers) := by
    obtain ⟨_, _, _, _, parsed, _⟩ := Request.fromStream_eq_ok (Prod.ext answer rfl)
    exact parsed
  obtain ⟨_, requestLine, _, token, others, _, _, words, method, _⟩ := parseHead_eq_ok parsed
  have line : ∀ word ∈ token :: request.path :: others, OneLine word := by
    intro word member
    apply oneLine_of_visible
    apply visible_of_mem_splitWhitespace
    rwa [words]
  constructor
  · rw [method, HttpMethod.asStr_parse]
    exact line token List.mem_cons_self
  · exact line _ (List.mem_cons_of_mem _ List.mem_cons_self)

namespace LogRecord

theorem lines_fieldIf {record : LogRecord} {key : String} {value : Option Text}
    (plain : OneLine key.toList) :
    (record.fieldIf key value).Lines ↔
      record.Lines ∧ ∀ text, value = some text → OneLine text := by
  cases value with
  | none => simp [fieldIf]
  | some text => simp [fieldIf, lines_field plain]

end LogRecord

namespace LogEntry

theorem oneLine_event (entry : LogEntry) : OneLine entry.record.event.toList := by
  cases entry with
  | health recovered addr =>
      cases recovered <;> simp [record, BackendSet.healthRecord, LogRecord.new]
  | _ =>
      simp [record, Mzani.serverStart, logAcceptEvent, RequestStats.toMetricsRecord,
        ReportTexts.snapshotRecord, Mzani.logDropped, LogRecord.withRequest, LogRecord.new]

theorem not_oneLine_line (label : String) (text : Text) :
    ¬OneLine (ReportTexts.line label text) := by
  simp [ReportTexts.line]

/-- The report of a snapshot has more than one line. -/
theorem not_oneLine_formatReport (texts : ReportTexts) (metrics : Metrics) :
    ¬OneLine (texts.formatReport metrics) := by
  unfold ReportTexts.formatReport
  simp only [oneLine_append, not_oneLine_line, false_and, not_false_eq_true]

theorem lines_requestParsed {req : RequestContext} {request : Request}
    (sent : FromClient request) :
    (Mzani.requestParsed req request).Lines ↔
      (LogEntry.requestParsed req request sent).Clean := by
  obtain ⟨method, path⟩ := sent.oneLine
  have host : OneLine ((headerField request.headers "host".toList).getD "-".toList) ↔
      ∀ value, headerField request.headers "host".toList = some value → OneLine value := by
    cases headerField request.headers "host".toList with
    | none => simp
    | some value => simp
  simp (disch := decide) only [Mzani.requestParsed, LogRecord.lines_fieldIf,
    LogRecord.lines_field, LogRecord.lines_withRequest, LogRecord.lines_new, method,
    oneLine_pathForLog path, oneLine_decimal, host, true_and, and_true]
  simp [Clean, and_assoc]

theorem oneLine_backends (backends : List SocketAddr) :
    OneLine ((backends.map formatAddr).intersperse [',']).flatten := by
  apply oneLine_intersperse (by decide)
  intro piece member
  obtain ⟨addr, _, rfl⟩ := List.mem_map.mp member
  exact oneLine_formatAddr addr

theorem lines_record (entry : LogEntry) : entry.record.Lines ↔ entry.Clean := by
  cases entry with
  | requestParsed req request sent => exact lines_requestParsed sent
  | metricsSnapshot texts metrics =>
      simp (disch := decide) [record, Clean, ReportTexts.snapshotRecord, LogRecord.lines_field,
        not_oneLine_formatReport]
  | health recovered addr =>
      cases recovered <;>
        simp (disch := decide) [record, Clean, BackendSet.healthRecord, LogRecord.lines_field]
  | serverStart listen backends workers =>
      simp (disch := decide) [record, Clean, Mzani.serverStart, LogRecord.lines_field,
        oneLine_backends]
  | metricsRecord stats =>
      have outcome : OneLine stats.outcome.asStr.toList := by
        cases stats.outcome <;> decide
      simp (disch := decide) [record, Clean, RequestStats.toMetricsRecord,
        LogRecord.lines_field, LogRecord.lines_fieldIf, outcome]
  | requestFailed req elapsed stage error =>
      have name : OneLine stage.asStr.toList := by
        cases stage <;> decide
      simp (disch := decide) [record, Clean, Mzani.requestFailed, LogRecord.lines_field, name]
  | connectionAccepted req peer listen =>
      cases peer <;>
        simp (disch := decide) [record, Clean, Mzani.connectionAccepted,
          LogRecord.lines_field]
  | _ =>
      simp (disch := decide) [record, Clean, logAcceptEvent, Mzani.logDropped,
        Mzani.backendConnect, Mzani.backendSelected, Mzani.requestComplete,
        Mzani.slowRequest, Mzani.requestFailed, LogRecord.lines_field,
        LogRecord.lines_fieldIf]

/-- The line of a record that the program builds is one line exactly if the
texts in it are. -/
theorem oneLine_formatLine_iff (entry : LogEntry) (timestamp : Nat) :
    OneLine (entry.record.formatLine timestamp) ↔ entry.Clean :=
  (LogRecord.oneLine_formatLine entry.oneLine_event timestamp).trans entry.lines_record

end LogEntry

/-- The log file after `write_record` of these records, each at its time. -/
def logFile (written : List (LogRecord × Nat)) : Text :=
  written.flatMap fun (record, timestamp) => record.formatLine timestamp ++ ['\n']

theorem count_logFile (written : List (LogRecord × Nat)) :
    (logFile written).count '\n' = written.length +
      (written.map fun entry => (entry.1.formatLine entry.2).count '\n').sum := by
  induction written with
  | nil => rfl
  | cons entry written ih =>
      have file : logFile (entry :: written) =
          entry.1.formatLine entry.2 ++ '\n' :: logFile written := by
        simp [logFile]
      rw [file, List.count_append, List.count_cons_self, ih, List.length_cons, List.map_cons,
        List.sum_cons]
      omega

/-- The file has as many lines as records exactly if no record breaks its line. -/
theorem count_logFile_eq_iff (written : List (LogRecord × Nat)) :
    (logFile written).count '\n' = written.length ↔
      ∀ entry ∈ written, '\n' ∉ entry.1.formatLine entry.2 := by
  rw [count_logFile, Nat.add_eq_left, List.sum_eq_zero_iff_forall_eq_nat, List.forall_mem_map]
  simp only [List.count_eq_zero]

/-- A client that puts a line of its own into the log. -/
def forgedHead : Bytes :=
  toUtf8 "GET / HTTP/1.1\r\nUser-Agent: a\nts_ms=0 level=WARN\r\n\r\n".toList

def forgedRequest : Request where
  method := .get
  path := "/".toList
  headers := [("User-Agent".toList, "a\nts_ms=0 level=WARN".toList)]
  body := []
  rawHead := forgedHead

def forgedStream : Source := [.ok ⟨forgedHead, by decide⟩]

theorem forgedRequest_twoLines :
    (Request.fromStream {} forgedStream).1 = .ok forgedRequest ∧
      ¬OneLine ((requestParsed ⟨1, 0⟩ forgedRequest).formatLine 0) ∧
      (logFile [(requestParsed ⟨1, 0⟩ forgedRequest, 0)]).count '\n' = 2 := by
  decide +kernel

/-! ## The records of a call -/

/-- The program builds this record. -/
def Built (record : LogRecord) : Prop :=
  ∃ entry : LogEntry, entry.record = record

@[simp] def Effect.Built : Effect → Prop
  | .emitLog record => Mzani.Built record
  | _ => True

/-- All records that the effects emit are built by the program. -/
def AllBuilt (effects : List Effect) : Prop :=
  ∀ effect ∈ effects, effect.Built

@[simp] theorem allBuilt_nil : AllBuilt [] := by
  intro effect member
  cases member

@[simp] theorem allBuilt_cons {effect : Effect} {effects : List Effect} :
    AllBuilt (effect :: effects) ↔ effect.Built ∧ AllBuilt effects :=
  List.forall_mem_cons

theorem allBuilt_emitLog {record : LogRecord} (built : Built record) :
    AllBuilt [.emitLog record] := by
  intro effect member
  rw [List.mem_singleton.mp member]
  exact built

theorem AllBuilt.append {effects more : List Effect} (first : AllBuilt effects)
    (second : AllBuilt more) : AllBuilt (effects ++ more) :=
  List.forall_mem_append.mpr ⟨first, second⟩

namespace WorkerContext

variable {σ τ : Type} {context : WorkerContext} {client : ClientSocket σ}
  {around : Surroundings τ} {req : RequestContext}

theorem built_connectionAccepted :
    Built (connectionAccepted req client.peerText context.socketAddr) := by
  refine ⟨.connectionAccepted req client.peerAddr.toOption context.socketAddr, ?_⟩
  unfold ClientSocket.peerText
  cases client.peerAddr with
  | error error => rfl
  | ok addr => rfl

theorem allBuilt_untilAccepted : AllBuilt (untilAccepted context client req) := by
  simp [untilAccepted, built_connectionAccepted]

theorem allBuilt_untilSelected (target : SocketAddr) :
    AllBuilt (untilSelected context client req target) := by
  have selected : Built (backendSelected req target) := ⟨.backendSelected req target, rfl⟩
  simp [untilSelected, built_connectionAccepted, selected]

theorem allBuilt_respond (answer : Answer) : AllBuilt (client.respond answer) := by
  unfold ClientSocket.respond
  split
  · simp
  · split <;> simp

theorem allBuilt_failure (elapsed : Duration) (stage : FailedStage) (error : MzaniError) :
    AllBuilt (failure req elapsed stage.asStr error.display) :=
  allBuilt_emitLog ⟨.requestFailed req elapsed stage error, rfl⟩

theorem allBuilt_complete (clock : Nat → Duration) (target : SocketAddr) (requestLen : Nat)
    (response : Bytes) :
    AllBuilt (context.complete clock req target requestLen response).effects := by
  let status := parseStatusForLog response
  let threshold := context.timeouts.slowRequestWarn
  have slow : Built (slowRequest req (clock 0) threshold) :=
    ⟨.slowRequest req (clock 0) threshold, rfl⟩
  have completed :
      Built (requestComplete req target requestLen response.length (clock 0) status) :=
    ⟨.requestComplete req target requestLen response.length (clock 0) status, rfl⟩
  unfold complete
  dsimp only
  split <;> simp [slow, completed, threshold, status]

section

variable [Read σ] [Read τ] {target : SocketAddr} {request : Request}
  {result : MzaniResult Bytes} {attempts : List Attempt}

theorem allBuilt_untilProxied
    (proxies : Proxies context client around target request result attempts) :
    AllBuilt (untilProxied context client req target request attempts) := by
  have sent : FromClient request := ⟨σ, inferInstance, _, _, proxies.parsed⟩
  have selected : Built (backendSelected req target) := ⟨.backendSelected req target, rfl⟩
  have parsed : Built (requestParsed req request) := ⟨.requestParsed req request sent, rfl⟩
  have connect : Built (backendConnect req target) := ⟨.backendConnect req target, rfl⟩
  simp [untilProxied, built_connectionAccepted, selected, parsed, connect]

/-- A call of `handle_connection` emits only records that the program builds. -/
theorem allBuilt_handleConnection :
    AllBuilt (context.handleConnection client around req).effects := by
  have ends : Ends context client around req
      (context.handleConnection client around req) := handleConnection_ends
  generalize context.handleConnection client around req = handled at ends
  cases ends with
  | setTimeout => exact allBuilt_failure _ .setTimeout _
  | noBackend =>
      apply allBuilt_untilAccepted.append
      apply (allBuilt_respond _).append
      exact allBuilt_emitLog ⟨.noBackend req (around.clock 0), rfl⟩
  | routing => exact allBuilt_untilAccepted
  | bodyLimit =>
      apply (allBuilt_untilSelected _).append
      apply (allBuilt_respond _).append
      exact allBuilt_emitLog ⟨.bodyLimit req (around.clock 0), rfl⟩
  | parse =>
      apply (allBuilt_untilSelected _).append
      exact allBuilt_failure _ .parse _
  | proxy proxies =>
      apply (allBuilt_untilProxied proxies).append
      apply (allBuilt_failure _ .proxy _).append
      simp
  | clientWrite proxies =>
      apply (allBuilt_untilProxied proxies).append
      exact allBuilt_cons.mpr ⟨trivial, allBuilt_failure _ .clientWrite _⟩
  | clientFlush proxies =>
      apply (allBuilt_untilProxied proxies).append
      exact allBuilt_cons.mpr ⟨trivial, allBuilt_failure _ .clientFlush _⟩
  | clientShutdown proxies =>
      apply (allBuilt_untilProxied proxies).append
      simp only [allBuilt_cons, Effect.Built, true_and]
      exact allBuilt_failure _ .clientShutdown _
  | complete proxies =>
      apply (allBuilt_untilProxied proxies).append
      simp only [allBuilt_cons, Effect.Built, true_and]
      exact allBuilt_complete _ _ _ _

end

end WorkerContext

/-! ## The records of a run -/

/-- The record that an activity brings along, if it does, is one that the program
builds. -/
def Activity.Built {σ τ : Type} : Activity σ τ → Prop
  | .acceptEvent _ record => Mzani.Built record
  | .sink record => Mzani.Built record
  | _ => True

/-- A thread works on records that the program builds. -/
structure Running.Built (running : Running) : Prop where
  effects : AllBuilt running.handled.effects
  sending : ∀ record, running.emission = some (.sending record) → Mzani.Built record

namespace Observability

/-- What holds of the records in every reachable state. -/
structure OnlyBuilt (state : Observability) : Prop where
  accepted : ∀ record ∈ state.log.accepted, Built record
  running : ∀ running, some running ∈ state.threads → running.Built

section

variable {state next : Observability} {record : LogRecord} {thread : Nat}
  {running : Running}

theorem built_accepted {log : Channel LogRecord} (invariant : state.OnlyBuilt)
    (built : Built record) (answer : state.log.trySend record = .sent log) :
    ∀ other ∈ log.accepted, Built other := by
  have sent := Channel.sent_of_trySend answer
  rw [sent.accepted]
  intro other member
  rcases List.mem_append.mp member with before | last
  · exact invariant.accepted other before
  · rw [List.mem_singleton.mp last]
    exact built

theorem OnlyBuilt.send (invariant : state.OnlyBuilt) (emitter : Emitter)
    (built : Built record) : (state.send emitter record).OnlyBuilt := by
  unfold Observability.send
  split
  case h_1 log answer => exact ⟨built_accepted invariant built answer, invariant.running⟩
  case h_2 => exact ⟨invariant.accepted, invariant.running⟩
  case h_3 => exact invariant

theorem OnlyBuilt.setThread (invariant : state.OnlyBuilt) {new : Option Running}
    (built : ∀ running, new = some running → running.Built) :
    (state.setThread thread new).OnlyBuilt := by
  constructor
  · exact invariant.accepted
  · intro running member
    rcases List.mem_or_eq_of_mem_set member with before | here
    · exact invariant.running running before
    · exact built running here.symm

theorem OnlyBuilt.setRunning (invariant : state.OnlyBuilt) (built : running.Built) :
    (state.setThread thread (some running)).OnlyBuilt := by
  apply invariant.setThread
  intro other same
  cases same
  exact built

theorem OnlyBuilt.enter {handled : Handled} (invariant : state.OnlyBuilt)
    (built : AllBuilt handled.effects) (entered : state.enter thread handled = some next) :
    next.OnlyBuilt := by
  unfold Observability.enter at entered
  split at entered
  case h_1 =>
      cases entered
      apply invariant.setRunning
      constructor
      · exact built
      · intro record sending
        cases sending
  case h_2 => cases entered

/-- A step of `emit_log`; what is left of the call has no record to send. -/
theorem OnlyBuilt.emit {emission : Emission} (invariant : state.OnlyBuilt)
    (built : ∀ record, emission = .sending record → Built record) :
    (state.emit emission).1.OnlyBuilt ∧
      ∀ record, (state.emit emission).2 ≠ some (.sending record) := by
  cases emission with
  | sending record =>
      unfold Observability.emit
      dsimp only
      split
      case h_1 log answer =>
          have accepted := built_accepted invariant (built record rfl) answer
          exact ⟨⟨accepted, invariant.running⟩, by simp⟩
      case h_2 => exact ⟨⟨invariant.accepted, invariant.running⟩, by simp⟩
      case h_3 => exact ⟨invariant, by simp⟩
  | counting =>
      constructor
      · exact ⟨invariant.accepted, invariant.running⟩
      · intro record
        unfold Observability.emit
        dsimp only
        split <;> simp
  | warning prev =>
      constructor
      · exact invariant.send .warning ⟨.logDropped (prev + 1), rfl⟩
      · intro record
        simp [Observability.emit]

theorem OnlyBuilt.recordMetrics (invariant : state.OnlyBuilt) (stats : RequestStats) :
    (state.recordMetrics stats).OnlyBuilt := by
  unfold Observability.recordMetrics
  split <;> exact ⟨invariant.accepted, invariant.running⟩

theorem OnlyBuilt.advance (invariant : state.OnlyBuilt) (built : running.Built) :
    (state.advance thread running).OnlyBuilt := by
  unfold Observability.advance
  dsimp only
  split
  case h_1 =>
      have free : (state.setThread thread none).OnlyBuilt := by
        apply invariant.setThread
        intro other same
        cases same
      exact ⟨free.accepted, free.running⟩
  case h_2 record next =>
      apply invariant.setRunning
      constructor
      · exact built.effects
      · intro sent same
        cases same
        exact built.effects _ (List.mem_of_getElem? next)
  case h_3 stats next =>
      exact (invariant.recordMetrics stats).setRunning ⟨built.effects, built.sending⟩
  case h_4 => exact invariant.setRunning ⟨built.effects, built.sending⟩

theorem OnlyBuilt.work (invariant : state.OnlyBuilt)
    (worked : state.work thread = some next) : next.OnlyBuilt := by
  unfold Observability.work at worked
  split at worked
  case h_1 running found =>
      have built := invariant.running running (List.mem_of_getElem? found)
      split at worked
      case h_1 emission on =>
          cases worked
          obtain ⟨emitted, silent⟩ := invariant.emit fun record same =>
            built.sending record (on.trans (congrArg some same))
          apply emitted.setRunning
          exact ⟨built.effects, fun record sending => absurd sending (silent record)⟩
      case h_2 =>
          cases worked
          exact invariant.advance built
  case h_2 => cases worked

theorem OnlyBuilt.write (invariant : state.OnlyBuilt)
    (written : state.write = some next) : next.OnlyBuilt := by
  unfold Observability.write at written
  split at written
  case h_1 record log answer =>
      cases written
      have received := Channel.received_of_recv answer
      constructor
      · rw [received.sameAccepted]
        exact invariant.accepted
      · exact invariant.running
  case h_2 =>
      cases written
      exact ⟨invariant.accepted, invariant.running⟩
  case h_3 => cases written

theorem OnlyBuilt.aggregate (invariant : state.OnlyBuilt) (texts : ReportTexts)
    {elapsed : Bool} (taken : state.aggregate texts.snapshotRecord elapsed = some next) :
    next.OnlyBuilt := by
  unfold Observability.aggregate at taken
  split at taken
  case h_1 =>
      split at taken
      · cases taken
        exact ⟨invariant.accepted, invariant.running⟩
      · cases taken
        exact ⟨invariant.accepted, invariant.running⟩
      · cases taken
  case h_2 =>
      cases taken
      exact ⟨invariant.accepted, invariant.running⟩
  case h_3 stats due _ =>
      cases taken
      have sent := invariant.send .aggregator ⟨.metricsRecord stats, rfl⟩
      exact ⟨sent.accepted, sent.running⟩
  case h_4 =>
      cases taken
      have sent := invariant.send .aggregator ⟨.metricsSnapshot texts state.metrics, rfl⟩
      exact ⟨sent.accepted, sent.running⟩
  case h_5 => cases taken

end

section

variable {σ τ : Type} [Read σ] [Read τ] {context : WorkerContext} {texts : ReportTexts}
  {state next : Observability}

theorem OnlyBuilt.step {activity : Activity σ τ} (invariant : state.OnlyBuilt)
    (built : activity.Built)
    (taken : (machine texts.snapshotRecord context).step state activity = some next) :
    next.OnlyBuilt := by
  cases activity with
  | call thread client around req =>
      exact invariant.enter WorkerContext.allBuilt_handleConnection taken
  | acceptEvent thread record => exact invariant.enter (allBuilt_emitLog built) taken
  | rejectPoolFull thread =>
      have saturated : Built poolSaturated := ⟨.poolSaturated, rfl⟩
      have recorded :
          { state with metrics := state.metrics.recordPoolRejected }.OnlyBuilt :=
        ⟨invariant.accepted, invariant.running⟩
      exact recorded.enter (allBuilt_emitLog saturated) taken
  | work thread => exact invariant.work taken
  | aggregate elapsed => exact invariant.aggregate texts taken
  | write => exact invariant.write taken
  | sink record =>
      cases taken
      exact invariant.send .sink built

theorem onlyBuilt_start {config : PoolConfig} (valid : config.validate = .ok ())
    (listen : SocketAddr) (backends : List SocketAddr) (threads : Nat) :
    (start config valid listen backends threads).OnlyBuilt := by
  have spawned : (spawn config valid threads).OnlyBuilt := by
    constructor
    · intro record member
      cases member
    · intro running member
      cases List.eq_of_mem_replicate member
  exact spawned.send .sink ⟨.serverStart listen backends config.workers.val, rfl⟩

/-- Whatever the threads do, the log gets only records that the program
builds. -/
theorem built_run {config : PoolConfig} (valid : config.validate = .ok ())
    (listen : SocketAddr) (backends : List SocketAddr) (threads : Nat)
    {activities : List (Activity σ τ)} (built : ∀ activity ∈ activities, activity.Built)
    (run : (machine texts.snapshotRecord context).run
      (start config valid listen backends threads) activities = some state) :
    ∀ record ∈ state.log.accepted, Built record := by
  have invariant : (∀ activity ∈ activities, activity.Built) → state.OnlyBuilt := by
    apply Machine.run_induction
      (fun taken state => (∀ activity ∈ taken, activity.Built) → state.OnlyBuilt) _ _ run
    · intro _
      exact onlyBuilt_start valid listen backends threads
    · intro taken state activity next before step all
      obtain ⟨earlier, last⟩ := List.forall_mem_append.mp all
      exact (before earlier).step (last activity List.mem_cons_self) step
  exact (invariant built).accepted

end

end Observability

end Mzani
