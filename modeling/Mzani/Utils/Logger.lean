import Mzani.State.LogLines
import Mzani.Support.Scanner

/-!
# The logger

The file that the log writer appends to, the smallest level that reaches it, and
the reader of the whole file: it gets back all fields of all lines exactly if no
value breaks its line or hides its closing quote.
-/

namespace Mzani

open Support

/-- `std::env::var`, where it gives a text. -/
abbrev Environment : Type := String → Option (Vec Char)

/-- The order of the levels, by their positions. -/
def LogLevel.severity : LogLevel → Nat
  | .debug => 0
  | .info => 1
  | .warn => 2
  | .error => 3

/-- `LogLevel::from_env` -/
def LogLevel.fromEnv (environment : Environment) : LogLevel :=
  match (environment "MZANI_LOG").map fun level => level.val.map Char.toLower with
  | some level =>
      if level = "debug".toList then .debug
      else if level = "warn".toList then .warn
      else if level = "error".toList then .error
      else .info
  | none => .info

def LogRecord.meetsMinLevel (record : LogRecord) (min : LogLevel) : Bool :=
  decide (min.severity ≤ record.level.severity)

/-- `log_dir.join("mzani.log")` -/
def logPath (logDir : String) : String :=
  if logDir = "" ∨ logDir.toList.getLast? = some '/' then logDir ++ "mzani.log"
  else logDir ++ "/mzani.log"

/-- `Logger`; its file is what the file holds. -/
structure Logger where
  file : Bytes
  minLevel : LogLevel

namespace Logger

/-- `Logger::new_in_dir`, with the outcomes of creating the directory and of
opening the file, which keeps what it holds. -/
def newInDir (environment : Environment) (logDir : String) (createDirAll : Except IoError Unit)
    (opened : Except IoError Bytes) : MzaniResult Logger :=
  match createDirAll with
  | .error error =>
      .error (.loggerInit ("failed to create log directory: " ++ error.message))
  | .ok () =>
      match opened with
      | .error error =>
          .error (.loggerInit
            ("failed to open log file " ++ logPath logDir ++ ": " ++ error.message))
      | .ok file => .ok { file, minLevel := .fromEnv environment }

/-- `write_record`; writing to the file may fail after some bytes. -/
def writeRecord (logger : Logger) (record : LogRecord) (timestamp : Nat)
    (failure : Option (Nat × IoError)) : Logger × MzaniResult Unit :=
  if record.meetsMinLevel logger.minLevel = false then (logger, .ok ())
  else
    let line := toUtf8 (record.formatLine timestamp ++ ['\n'])
    match failure with
    | none => ({ logger with file := logger.file ++ line }, .ok ())
    | some (count, error) =>
        ({ logger with file := logger.file ++ line.take count }, .error (.io error.message))

/-- `log_writer_loop` on these records, each with its time and with the failure
that it meets. -/
def writeAll (logger : Logger) (records : List (LogRecord × Nat × Option (Nat × IoError))) :
    Logger :=
  records.foldl
    (fun logger (record, timestamp, failure) => (logger.writeRecord record timestamp failure).1)
    logger

end Logger

/-! ## Reading a log -/

/-- What a line has before the fields of its record. -/
def LogRecord.heading (record : LogRecord) (timestamp : Nat) : List (Text × Text) :=
  [("ts_ms".toList, decimal timestamp), ("level".toList, record.level.asStr.toList),
      ("event".toList, record.event.toList), ("role".toList, record.role.asStr.toList)] ++
    record.reqId.toList.map (fun reqId => ("req_id".toList, decimal reqId.val)) ++
    record.workerId.toList.map (fun workerId => ("worker_id".toList, decimal workerId))

/-- All that a line shows of a record, as fields. -/
def LogRecord.shown (record : LogRecord) (timestamp : Nat) : List (Text × Text) :=
  record.heading timestamp ++ record.fields

/-- The fields of each line that has an end. -/
def readLog (file : Text) : Option (List (List (Text × Text))) :=
  (file.splitOn '\n').dropLast.mapM fun line => readFields (' ' :: line)

section

variable {record : LogRecord}

theorem needsQuotes_decimal (number : Nat) : needsQuotes (decimal number) = false := by
  apply List.any_eq_false.mpr
  intro char member
  obtain ⟨all, _⟩ := Scanner.toDigits_spec (by decide : 1 < 10) (by decide) number
  have digit := all char member
  have visible := isWhitespace_of_toDigit digit
  have plain : char ≠ '"' ∧ char ≠ '=' := by
    constructor
    · rintro rfl
      cases digit
    · rintro rfl
      cases digit
  simp [visible, plain]

theorem writeField_plain {value : Text} (plain : needsQuotes value = false) (key : Text) :
    writeField key value = key ++ '=' :: value := by
  rw [writeField, if_neg (by simp [plain])]

theorem formatFields_cons (field : Text × Text) (fields : List (Text × Text)) :
    formatFields (field :: fields) = ' ' :: writeField field.1 field.2 ++ formatFields fields :=
  rfl

theorem formatFields_append (fields more : List (Text × Text)) :
    formatFields (fields ++ more) = formatFields fields ++ formatFields more :=
  List.flatMap_append

/-- The names in the record stand for themselves in a line. -/
structure LogRecord.Plain (record : LogRecord) : Prop where
  event : needsQuotes record.event.toList = false
  keys : ∀ field ∈ record.fields, PlainKey field.1

/-- No value breaks the line of the record or hides its own end. -/
structure LogRecord.Readable (record : LogRecord) : Prop where
  lines : ∀ field ∈ record.fields, '\n' ∉ field.2
  closed : ∀ field ∈ record.fields, Closed field.2

theorem plain_heading (plain : record.Plain) (timestamp : Nat) :
    ∀ field ∈ record.heading timestamp, PlainKey field.1 ∧ needsQuotes field.2 = false := by
  have level : needsQuotes record.level.asStr.toList = false := by
    cases record.level <;> decide
  have role : needsQuotes record.role.asStr.toList = false := by
    cases record.role <;> decide
  have names : PlainKey "ts_ms".toList ∧ PlainKey "level".toList ∧ PlainKey "event".toList ∧
      PlainKey "role".toList ∧ PlainKey "req_id".toList ∧ PlainKey "worker_id".toList := by
    decide
  obtain ⟨tsMs, levelKey, event, roleKey, reqId, workerId⟩ := names
  intro field member
  simp only [LogRecord.heading, List.mem_append, List.mem_cons, List.not_mem_nil, or_false,
    List.mem_map] at member
  rcases member with ((rfl | rfl | rfl | rfl) | ⟨number, _, rfl⟩) | ⟨number, _, rfl⟩
  · exact ⟨tsMs, needsQuotes_decimal timestamp⟩
  · exact ⟨levelKey, level⟩
  · exact ⟨event, plain.event⟩
  · exact ⟨roleKey, role⟩
  · exact ⟨reqId, needsQuotes_decimal number⟩
  · exact ⟨workerId, needsQuotes_decimal number⟩

/-- A line is a list of fields, but for the space before the first one. -/
theorem cons_formatLine (plain : record.Plain) (timestamp : Nat) :
    ' ' :: record.formatLine timestamp = formatFields (record.shown timestamp) := by
  have heading : formatFields (record.heading timestamp) =
      (record.heading timestamp).flatMap fun field => ' ' :: field.1 ++ '=' :: field.2 := by
    apply List.flatMap_congr
    intro field member
    exact congrArg (' ' :: ·) (writeField_plain (plain_heading plain timestamp field member).2 _)
  rw [LogRecord.shown, formatFields_append, heading]
  unfold LogRecord.formatLine LogRecord.heading
  cases record.reqId <;> cases record.workerId <;>
    simp [List.flatMap_cons]

theorem mem_escapeQuotes {char : Char} {text : Text}
    (member : char ∈ escapeQuotes '"' '\\' text) : char ∈ text ∨ char = '\\' := by
  induction text with
  | nil => cases member
  | cons head text ih =>
      rw [escapeQuotes_cons, List.mem_append] at member
      rcases member with here | later
      · split at here
        case isTrue quote =>
            rw [quote]
            simp only [List.mem_cons, List.not_mem_nil, or_false] at here ⊢
            rcases here with escape | same
            · exact .inr escape
            · exact .inl (.inl same)
        case isFalse =>
            rw [List.mem_singleton.mp here]
            exact .inl List.mem_cons_self
      · rcases ih later with inside | escape
        · exact .inl (List.mem_cons_of_mem head inside)
        · exact .inr escape

theorem lineFeed_mem_writeField {key value : Text} (member : '\n' ∈ writeField key value) :
    '\n' ∈ key ∨ '\n' ∈ value := by
  unfold writeField at member
  split at member
  · simp only [List.mem_append, List.mem_cons, List.not_mem_nil, or_false] at member
    rcases member with ((inKey | equal | quote | inside) | quote)
    · exact .inl inKey
    · cases equal
    · cases quote
    · rcases mem_escapeQuotes inside with inValue | escape
      · exact .inr inValue
      · cases escape
    · cases quote
  · simp only [List.mem_append, List.mem_cons] at member
    rcases member with inKey | equal | inValue
    · exact .inl inKey
    · cases equal
    · exact .inr inValue

theorem lineFeed_not_mem_of_plain {key : Text} (plain : PlainKey key) : '\n' ∉ key := by
  intro member
  have visible := (plain.plain '\n' member).1
  cases visible

theorem lineFeed_not_mem_of_unquoted {value : Text} (unquoted : needsQuotes value = false) :
    '\n' ∉ value := by
  intro member
  have plain := List.any_eq_false.mp unquoted '\n' member
  exact plain rfl

theorem LogRecord.Readable.free (readable : record.Readable) (plain : record.Plain)
    (timestamp : Nat) : '\n' ∉ record.formatLine timestamp := by
  intro member
  have line : '\n' ∈ formatFields (record.shown timestamp) := by
    rw [← cons_formatLine plain]
    exact List.mem_cons_of_mem _ member
  obtain ⟨field, shown, inside⟩ := List.mem_flatMap.mp line
  have here : '\n' ∈ field.1 ∨ '\n' ∈ field.2 := by
    rcases List.mem_cons.mp inside with space | inside
    · cases space
    · exact lineFeed_mem_writeField inside
  rcases List.mem_append.mp shown with heading | field
  · obtain ⟨key, value⟩ := plain_heading plain timestamp _ heading
    rcases here with inKey | inValue
    · exact lineFeed_not_mem_of_plain key inKey
    · exact lineFeed_not_mem_of_unquoted value inValue
  · rcases here with inKey | inValue
    · exact lineFeed_not_mem_of_plain (plain.keys _ field) inKey
    · exact readable.lines _ field inValue

theorem readFields_of_closed {fields : List (Text × Text)}
    (plain : ∀ field ∈ fields, PlainKey field.1) (closed : ∀ field ∈ fields, Closed field.2) :
    readFields (formatFields fields) = some fields := by
  induction fields with
  | nil => simp [formatFields, readFields]
  | cons field fields ih =>
      have later := ih (fun other member => plain other (List.mem_cons_of_mem field member))
        fun other member => closed other (List.mem_cons_of_mem field member)
      have first := readField_writeField (plain field List.mem_cons_self)
        (closed field List.mem_cons_self) fields
      rw [formatFields_cons, List.cons_append, readFields_field first, later, Option.map_some]

/-- All that the line of a readable record shows is read from it. -/
theorem LogRecord.Readable.readFields (readable : record.Readable) (plain : record.Plain)
    (timestamp : Nat) :
    Mzani.readFields (' ' :: record.formatLine timestamp) = some (record.shown timestamp) := by
  rw [cons_formatLine plain]
  apply readFields_of_closed
  · intro field member
    rcases List.mem_append.mp member with heading | inRecord
    · exact (plain_heading plain timestamp field heading).1
    · exact plain.keys field inRecord
  · intro field member
    rcases List.mem_append.mp member with heading | inRecord
    · intro quoted
      rw [(plain_heading plain timestamp field heading).2] at quoted
      cases quoted
    · exact readable.closed field inRecord

/-- The lines of a file of readable records, before a line that was cut off. -/
theorem splitOn_logFile {written : List (LogRecord × Nat)} {torn : Text}
    (free : ∀ entry ∈ written, '\n' ∉ entry.1.formatLine entry.2) (unended : '\n' ∉ torn) :
    (logFile written ++ torn).splitOn '\n' =
      written.map (fun entry => entry.1.formatLine entry.2) ++ [torn] := by
  induction written with
  | nil => exact List.splitOn_eq_singleton unended
  | cons entry written ih =>
      have file : logFile (entry :: written) ++ torn =
          entry.1.formatLine entry.2 ++ '\n' :: (logFile written ++ torn) := by
        simp [logFile]
      rw [file, List.splitOn_append_cons_self,
        List.splitOn_eq_singleton (free entry List.mem_cons_self),
        ih fun other member => free other (List.mem_cons_of_mem entry member)]
      rfl

/-- A file of readable records is read back whole, up to a line that was cut
off. -/
theorem readLog_logFile {written : List (LogRecord × Nat)} {torn : Text}
    (plain : ∀ entry ∈ written, entry.1.Plain) (readable : ∀ entry ∈ written, entry.1.Readable)
    (unended : '\n' ∉ torn) :
    readLog (logFile written ++ torn) =
      some (written.map fun (record, timestamp) => record.shown timestamp) := by
  have free : ∀ entry ∈ written, '\n' ∉ entry.1.formatLine entry.2 := fun entry member =>
    (readable entry member).free (plain entry member) entry.2
  rw [readLog, splitOn_logFile free unended, List.dropLast_concat]
  clear free
  induction written with
  | nil => rfl
  | cons entry written ih =>
      have later := ih (fun other member => plain other (List.mem_cons_of_mem entry member))
        fun other member => readable other (List.mem_cons_of_mem entry member)
      have first := (readable entry List.mem_cons_self).readFields
        (plain entry List.mem_cons_self) entry.2
      rw [List.map_cons, List.mapM_cons, first, later]
      rfl

end

/-! ## Writing a log -/

namespace Logger

variable (logger : Logger)

/-- The records that reach the file. -/
def keeps (record : LogRecord) : Bool :=
  record.meetsMinLevel logger.minLevel

/-- What a write leaves in the file. -/
def leaves (record : LogRecord) (timestamp : Nat) (failure : Option (Nat × IoError)) : Bytes :=
  let line := toUtf8 (record.formatLine timestamp ++ ['\n'])
  failure.elim line fun (count, _) => line.take count

theorem writeRecord_fst (record : LogRecord) (timestamp : Nat)
    (failure : Option (Nat × IoError)) :
    (logger.writeRecord record timestamp failure).1 =
      { logger with
        file := logger.file ++
          if logger.keeps record = true then leaves record timestamp failure else [] } := by
  unfold writeRecord keeps
  cases record.meetsMinLevel logger.minLevel with
  | false => simp
  | true => cases failure <;> rfl

/-- The file is only appended to, by the records that reach it, in order. -/
theorem writeAll_eq (records : List (LogRecord × Nat × Option (Nat × IoError))) :
    logger.writeAll records =
      { logger with
        file := logger.file ++ (records.filter fun entry => logger.keeps entry.1).flatMap
          fun (record, timestamp, failure) => leaves record timestamp failure } := by
  induction records generalizing logger with
  | nil => simp [writeAll]
  | cons entry records ih =>
      obtain ⟨record, timestamp, failure⟩ := entry
      have step : logger.writeAll ((record, timestamp, failure) :: records) =
          (logger.writeRecord record timestamp failure).1.writeAll records := rfl
      have keeps (file : Bytes) : keeps { logger with file } = logger.keeps := rfl
      rw [step, writeRecord_fst, ih, keeps, List.filter_cons]
      dsimp only
      cases logger.keeps record with
      | true => simp [keeps]
      | false => simp [keeps]

theorem toUtf8_logFile (written : List (LogRecord × Nat)) :
    toUtf8 (logFile written) = written.flatMap fun entry => leaves entry.1 entry.2 none := by
  induction written with
  | nil => rfl
  | cons entry written ih =>
      have file : logFile (entry :: written) =
          entry.1.formatLine entry.2 ++ ['\n'] ++ logFile written := rfl
      rw [file, toUtf8_append, ih, List.flatMap_cons]
      rfl

/-- Without failures the file holds the lines of the records that reach it after
the ones that it held. -/
theorem file_writeAll {earlier records : List (LogRecord × Nat)}
    (held : logger.file = toUtf8 (logFile earlier)) :
    (logger.writeAll (records.map fun entry => (entry.1, entry.2, none))).file =
      toUtf8 (logFile (earlier ++ records.filter fun entry => logger.keeps entry.1)) := by
  rw [writeAll_eq, held, toUtf8_logFile, toUtf8_logFile, List.flatMap_append, List.filter_map,
    List.flatMap_map]
  rfl

end Logger

end Mzani
