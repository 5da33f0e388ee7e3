import Mzani.Support.OneLine
import Mzani.Utils.LogRecord

/-!
# Log lines

The line of a record, and the reader that a `key=value` line is made for: it
gets the fields back exactly if no quoted value ends with a backslash.
-/

namespace Mzani

open Support

def LogLevel.asStr : LogLevel → String
  | .debug => "DEBUG"
  | .info => "INFO"
  | .warn => "WARN"
  | .error => "ERROR"

def LogRole.asStr : LogRole → String
  | .accept => "accept"
  | .worker => "worker"
  | .metrics => "metrics"
  | .log => "log"
  | .health => "health"

def needsQuotes (value : Text) : Bool :=
  value.any fun char => isWhitespace char || char = '"' || char = '='

def writeField (key value : Text) : Text :=
  if needsQuotes value = true then
    key ++ '=' :: '"' :: escapeQuotes '"' '\\' value ++ ['"']
  else key ++ '=' :: value

/-- The fields of a line, a space before each. -/
def formatFields (fields : List (Text × Text)) : Text :=
  fields.flatMap fun (key, value) => ' ' :: writeField key value

/-- Formats the record as one line; `timestamp` is the time in milliseconds. -/
def LogRecord.formatLine (record : LogRecord) (timestamp : Nat) : Text :=
  "ts_ms=".toList ++ decimal timestamp ++
    " level=".toList ++ record.level.asStr.toList ++
    " event=".toList ++ record.event.toList ++
    " role=".toList ++ record.role.asStr.toList ++
    record.reqId.elim [] (fun reqId => " req_id=".toList ++ decimal reqId.val) ++
    record.workerId.elim [] (fun workerId => " worker_id=".toList ++ decimal workerId) ++
    formatFields record.fields

/-! ## Reading fields -/

/-- A field and what follows it: the key up to `=`, then a quoted value, or a
value up to the next space. -/
def readField (text : Text) : Option ((Text × Text) × Text) :=
  let key := text.takeWhile (· ≠ '=')
  match text.dropWhile (· ≠ '=') with
  | [] => none
  | _ :: '"' :: rest =>
      (untilQuote '"' '\\' false rest).map fun (inner, rest) =>
        ((key, unescapeQuotes '"' '\\' inner), rest)
  | _ :: rest => some ((key, rest.takeWhile (· ≠ ' ')), rest.dropWhile (· ≠ ' '))

theorem length_untilQuote {escaped : Bool} {text inner rest : Text}
    (read : untilQuote '"' '\\' escaped text = some (inner, rest)) :
    rest.length < text.length := by
  induction text generalizing escaped inner with
  | nil => cases read
  | cons char text ih =>
      rw [untilQuote] at read
      split at read
      · cases read
        exact Nat.lt_succ_self _
      · obtain ⟨⟨further, last⟩, passed, same⟩ := Option.map_eq_some_iff.mp read
        cases same
        exact Nat.lt_succ_of_lt (ih passed)

theorem length_readField {text rest : Text} {field : Text × Text}
    (read : readField text = some (field, rest)) : rest.length < text.length := by
  have suffix := (List.dropWhile_suffix (· ≠ '=') (l := text)).length_le
  unfold readField at read
  split at read
  case h_1 => cases read
  case h_2 _ _ inside split =>
      rw [split] at suffix
      obtain ⟨⟨inner, last⟩, closed, same⟩ := Option.map_eq_some_iff.mp read
      cases same
      have shorter := length_untilQuote closed
      simp only [List.length_cons] at suffix
      omega
  case h_3 _ _ inside _ split =>
      rw [split] at suffix
      cases read
      have shorter := (List.dropWhile_suffix (· ≠ ' ') (l := inside)).length_le
      simp only [List.length_cons] at suffix
      omega

/-- The fields of a text, a space before each. -/
def readFields : Text → Option (List (Text × Text))
  | [] => some []
  | char :: text =>
      if char = ' ' then
        match _ : readField text with
        | none => none
        | some (field, rest) => (readFields rest).map (field :: ·)
      else none
termination_by text => text.length
decreasing_by
  have shorter := length_readField ‹readField text = some (field, rest)›
  simp only [List.length_cons]
  omega

/-- A key that stands for itself in a line. -/
structure PlainKey (key : Text) : Prop where
  nonempty : key ≠ []
  plain : ∀ char ∈ key, isWhitespace char = false ∧ char ≠ '"' ∧ char ≠ '='

instance : DecidablePred PlainKey := fun key =>
  decidable_of_iff
    (key ≠ [] ∧ ∀ char ∈ key, isWhitespace char = false ∧ char ≠ '"' ∧ char ≠ '=')
    ⟨fun both => ⟨both.1, both.2⟩, fun plain => ⟨plain.nonempty, plain.plain⟩⟩

/-- A value whose closing quote, if it has one, can be seen. -/
def Closed (value : Text) : Prop :=
  needsQuotes value = true → value.getLast? ≠ some '\\'

instance : DecidablePred Closed := fun value =>
  inferInstanceAs (Decidable (needsQuotes value = true → value.getLast? ≠ some '\\'))

section

variable {key value text rest : Text} {field : Text × Text} {fields : List (Text × Text)}

theorem readFields_field (read : readField text = some (field, rest)) :
    readFields (' ' :: text) = (readFields rest).map (field :: ·) := by
  rw [readFields, if_pos rfl]
  split
  case h_1 failed =>
      rw [read] at failed
      cases failed
  case h_2 again =>
      rw [read] at again
      cases again
      rfl

theorem readFields_none (read : readField text = none) : readFields (' ' :: text) = none := by
  rw [readFields, if_pos rfl]
  split
  case h_1 => rfl
  case h_2 again =>
      rw [read] at again
      cases again

theorem PlainKey.takeWhile (plain : PlainKey key) (rest : Text) :
    (key ++ '=' :: rest).takeWhile (· ≠ '=') = key := by
  have inKey : ∀ char ∈ key, decide (char ≠ '=') = true := by
    intro char member
    exact decide_eq_true (plain.plain char member).2.2
  rw [List.takeWhile_append_of_pos inKey, List.takeWhile_cons_of_neg (by simp),
    List.append_nil]

theorem PlainKey.dropWhile (plain : PlainKey key) (rest : Text) :
    (key ++ '=' :: rest).dropWhile (· ≠ '=') = '=' :: rest := by
  have inKey : ∀ char ∈ key, decide (char ≠ '=') = true := by
    intro char member
    exact decide_eq_true (plain.plain char member).2.2
  rw [List.dropWhile_append_of_pos inKey, List.dropWhile_cons_of_neg (by simp)]

theorem readField_quoted (plain : PlainKey key) (text : Text) :
    readField (key ++ '=' :: '"' :: text) =
      (untilQuote '"' '\\' false text).map fun (inner, rest) =>
        ((key, unescapeQuotes '"' '\\' inner), rest) := by
  unfold readField
  simp only [plain.dropWhile, plain.takeWhile]

theorem readField_plain (plain : PlainKey key) (noQuote : text.head? ≠ some '"') :
    readField (key ++ '=' :: text) =
      some ((key, text.takeWhile (· ≠ ' ')), text.dropWhile (· ≠ ' ')) := by
  rw [readField, plain.dropWhile, plain.takeWhile]
  cases text with
  | nil => rfl
  | cons char text =>
      simp only [List.head?_cons, ne_eq, Option.some.injEq] at noQuote
      simp [noQuote]

/-- Fields begin with a space. -/
theorem formatFields_cases (fields : List (Text × Text)) :
    formatFields fields = [] ∨ ∃ text, formatFields fields = ' ' :: text := by
  cases fields with
  | nil => exact Or.inl rfl
  | cons field fields => exact Or.inr ⟨_, rfl⟩

/-- A value without quotes ends at the next field. -/
theorem unquoted_value (unquoted : needsQuotes value = false)
    (fields : List (Text × Text)) :
    (value ++ formatFields fields).head? ≠ some '"' ∧
      (value ++ formatFields fields).takeWhile (· ≠ ' ') = value ∧
      (value ++ formatFields fields).dropWhile (· ≠ ' ') = formatFields fields := by
  have chars : ∀ char ∈ value, char ≠ ' ' ∧ char ≠ '"' := by
    intro char member
    have plain := List.any_eq_false.mp unquoted char member
    simp only [Bool.or_eq_true, decide_eq_true_eq, not_or] at plain
    constructor
    · rintro rfl
      exact plain.1.1 rfl
    · exact plain.1.2
  have inValue : ∀ char ∈ value, decide (char ≠ ' ') = true :=
    fun char member => decide_eq_true (chars char member).1
  rw [List.takeWhile_append_of_pos inValue, List.dropWhile_append_of_pos inValue]
  rcases formatFields_cases fields with none | ⟨text, some⟩
  · rw [none, List.append_nil]
    refine ⟨?_, by simp, rfl⟩
    intro first
    exact (chars '"' (List.mem_of_mem_head? first)).2 rfl
  · rw [some]
    refine ⟨?_, by simp, by simp⟩
    cases value with
    | nil => simp
    | cons char value => simpa using (chars char List.mem_cons_self).2

/-- A field whose value is closed is read back. -/
theorem readField_writeField (plain : PlainKey key) (closed : Closed value)
    (fields : List (Text × Text)) :
    readField (writeField key value ++ formatFields fields) =
      some ((key, value), formatFields fields) := by
  cases quoted : needsQuotes value with
  | false =>
      obtain ⟨noQuote, taken, dropped⟩ := unquoted_value quoted fields
      rw [writeField, quoted, if_neg Bool.false_ne_true, List.append_assoc, List.cons_append,
        readField_plain plain noQuote, taken, dropped]
  | true =>
      have different : '\\' ≠ '"' := by decide
      have back : unescapeQuotes '"' '\\' (escapeQuotes '"' '\\' value) = value := by
        have noQuote : ([] : Text).head? ≠ some '"' := by simp
        have whole := unescapeQuotes_escapeQuotes_append different value noQuote
        simpa [unescapeQuotes] using whole
      rw [writeField, if_pos quoted]
      simp only [List.append_assoc, List.cons_append, List.nil_append]
      rw [readField_quoted plain, untilQuote_closed different (closed quoted), Option.map_some]
      dsimp only
      rw [back]

/-- A field whose value hides its closing quote is read as another one, if at
all. -/
theorem readField_hidden (plain : PlainKey key) (hidden : ¬Closed value)
    (read : readField (writeField key value ++ text) = some (field, rest)) :
    field ≠ (key, value) := by
  simp only [Closed, Classical.not_imp, not_not] at hidden
  obtain ⟨quoted, last⟩ := hidden
  obtain ⟨start, rfl⟩ := List.getLast?_eq_some_iff.mp last
  rw [writeField, if_pos quoted] at read
  simp only [List.append_assoc, List.cons_append, List.nil_append] at read
  rw [readField_quoted plain, Option.map_eq_some_iff] at read
  obtain ⟨⟨inner, after⟩, closed, same⟩ := read
  cases same
  intro equal
  have values := (Prod.mk.inj equal).2
  exact untilQuote_hidden (by decide) closed values

/-- The fields of a line are read back exactly if no quoted value ends with a
backslash. -/
theorem readFields_formatFields_iff (plain : ∀ field ∈ fields, PlainKey field.1) :
    readFields (formatFields fields) = some fields ↔ ∀ field ∈ fields, Closed field.2 := by
  induction fields with
  | nil => simp [formatFields, readFields]
  | cons field fields ih =>
      have plainHere := plain field List.mem_cons_self
      have rest := ih fun other member => plain other (List.mem_cons_of_mem field member)
      have line : formatFields (field :: fields) =
          ' ' :: (writeField field.1 field.2 ++ formatFields fields) := rfl
      rw [line, List.forall_mem_cons]
      by_cases closed : Closed field.2
      · rw [readFields_field (readField_writeField plainHere closed fields), ← rest,
          and_iff_right closed]
        constructor
        · intro read
          obtain ⟨others, later, same⟩ := Option.map_eq_some_iff.mp read
          rw [later, (List.cons.inj same).2]
        · intro read
          rw [read]
          rfl
      · refine iff_of_false ?_ fun all => closed all.1
        intro read
        cases first : readField (writeField field.1 field.2 ++ formatFields fields) with
        | none =>
            rw [readFields_none first] at read
            cases read
        | some found =>
            obtain ⟨other, after⟩ := found
            rw [readFields_field first, Option.map_eq_some_iff] at read
            obtain ⟨others, _, same⟩ := read
            exact readField_hidden plainHere closed first (List.cons.inj same).1

end

/-- A value with a space and a backslash at its end. -/
def trailingBackslash : List (Text × Text) :=
  [("user_agent".toList, "a \\".toList), ("x_request_id".toList, "7".toList)]

/-- The closing quote looks escaped, so nothing can be read. -/
theorem readFields_trailingBackslash :
    formatFields trailingBackslash = " user_agent=\"a \\\" x_request_id=7".toList ∧
      readFields (formatFields trailingBackslash) = none := by
  decide +kernel

/-- Quotes, blanks and backslashes inside of values. -/
def tricky : List (Text × Text) :=
  [("user_agent".toList, "a \\\"b\" = c".toList), ("path".toList, "\\".toList),
    ("host".toList, [])]

theorem readFields_tricky : readFields (formatFields tricky) = some tricky :=
  (readFields_formatFields_iff (by decide)).mpr (by decide)

/-! ## Lines -/

theorem oneLine_writeField {key value : Text} :
    OneLine (writeField key value) ↔ OneLine key ∧ OneLine value := by
  unfold writeField
  split
  · simp [oneLine_escapeQuotes]
  · simp

theorem oneLine_formatFields {fields : List (Text × Text)} :
    OneLine (formatFields fields) ↔ ∀ field ∈ fields, OneLine field.1 ∧ OneLine field.2 := by
  induction fields with
  | nil => simp [formatFields]
  | cons field fields ih =>
      have line : formatFields (field :: fields) =
          ' ' :: (writeField field.1 field.2 ++ formatFields fields) := rfl
      rw [line, oneLine_cons, oneLine_append, oneLine_writeField, ih, List.forall_mem_cons]
      simp

@[simp] theorem oneLine_decimal (number : Nat) : OneLine (decimal number) :=
  oneLine_toDigits 10 number

@[simp] theorem oneLine_millis (duration : Duration) : OneLine (millis duration) :=
  oneLine_toDigits 10 _

/-! ## Addresses and paths -/

theorem oneLine_formatIpv4 (ip : BitVec 32) : OneLine (formatIpv4 ip) := by
  apply oneLine_intersperse (by decide)
  intro piece member
  obtain ⟨shift, _, rfl⟩ := List.mem_map.mp member
  exact oneLine_decimal _

theorem oneLine_formatSegments (segments : List Nat) : OneLine (formatSegments segments) := by
  apply oneLine_intersperse (by decide)
  intro piece member
  obtain ⟨segment, _, rfl⟩ := List.mem_map.mp member
  exact oneLine_toDigits 16 segment

theorem oneLine_formatIpv6 (ip : BitVec 128) : OneLine (formatIpv6 ip) := by
  unfold formatIpv6
  split
  · exact oneLine_append.mpr ⟨by decide, oneLine_formatIpv4 _⟩
  · dsimp only
    split
    · have middle : OneLine "::".toList := by decide
      simp only [oneLine_append, oneLine_formatSegments, middle, and_self]
    · exact oneLine_formatSegments _

@[simp] theorem oneLine_formatAddr (addr : SocketAddr) : OneLine (formatAddr addr) := by
  cases addr with
  | v4 ip port =>
      apply oneLine_append.mpr
      exact ⟨oneLine_formatIpv4 ip, oneLine_cons.mpr ⟨by decide, oneLine_decimal _⟩⟩
  | v6 ip port flowInfo scopeId =>
      have scope : OneLine (if scopeId = 0 then [] else '%' :: decimal scopeId.toNat) := by
        split
        · exact oneLine_nil
        · exact oneLine_cons.mpr ⟨by decide, oneLine_decimal _⟩
      have after : OneLine "]:".toList := by decide
      unfold formatAddr
      simp only [oneLine_cons, oneLine_append, oneLine_formatIpv6, scope, after,
        oneLine_decimal, and_true]
      decide

theorem oneLine_pathForLog {path : Text} (line : OneLine path) : OneLine (pathForLog path) :=
  line.of_subset (List.takeWhile_subset _)

namespace LogRecord

/-- The keys and the values of the record are on one line. -/
def Lines (record : LogRecord) : Prop :=
  ∀ field ∈ record.fields, OneLine field.1 ∧ OneLine field.2

/-- Quoting neutralises no line break: the line is one exactly if the fields
are. -/
theorem oneLine_formatLine {record : LogRecord} (event : OneLine record.event.toList)
    (timestamp : Nat) : OneLine (record.formatLine timestamp) ↔ record.Lines := by
  have level : OneLine record.level.asStr.toList := by
    cases record.level <;> decide
  have role : OneLine record.role.asStr.toList := by
    cases record.role <;> decide
  have reqId : OneLine (record.reqId.elim []
      fun reqId => " req_id=".toList ++ decimal reqId.val) := by
    cases record.reqId with
    | none => exact oneLine_nil
    | some reqId => exact oneLine_append.mpr ⟨by decide, oneLine_decimal reqId.val⟩
  have workerId : OneLine (record.workerId.elim []
      fun workerId => " worker_id=".toList ++ decimal workerId) := by
    cases record.workerId with
    | none => exact oneLine_nil
    | some workerId => exact oneLine_append.mpr ⟨by decide, oneLine_decimal workerId⟩
  have labels : OneLine "ts_ms=".toList ∧ OneLine " level=".toList ∧
      OneLine " event=".toList ∧ OneLine " role=".toList := by decide
  unfold formatLine
  simp only [oneLine_append, oneLine_decimal, labels, level, event, role, reqId, workerId,
    true_and]
  exact oneLine_formatFields

@[simp] theorem lines_new (level : LogLevel) (event : String) (role : LogRole) :
    (new level event role).Lines := by
  intro field member
  cases member

@[simp] theorem lines_withRequest {record : LogRecord} {req : RequestContext} :
    (record.withRequest req).Lines ↔ record.Lines := Iff.rfl

theorem lines_field {record : LogRecord} {key : String} {value : Text}
    (plain : OneLine key.toList) :
    (record.field key value).Lines ↔ record.Lines ∧ OneLine value := by
  unfold Lines field
  rw [List.forall_mem_append, List.forall_mem_singleton, and_iff_right plain]

end LogRecord

end Mzani
