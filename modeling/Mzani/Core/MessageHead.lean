import Mathlib.Data.List.Forall2
import Mzani.Core.BodyReading

/-!
# Message heads as lists of lines

What the head parsers accept, and how they read a head that was joined from
lines.  Joining cannot hide or create a terminator: a line is not empty and
contains no CRLF, and CRLFCRLF would show as an empty line.
-/

namespace Mzani

open Support

/-- `"\r\n"` -/
abbrev crlf : Text := ['\r', '\n']

/-- A header line and the field that is read from it. -/
def IsField (line : Text) (field : Text × Text) : Prop :=
  ∃ before after, splitOnce ':' line = some (before, after) ∧
    field = (trim before, trim after)

/-- The header loop accepts a list of lines if every line up to the first
empty one is a field. -/
theorem parseHeaderLines_eq_ok_iff {lines : List Text} {fields : HeaderFields} :
    parseHeaderLines lines = .ok fields ↔
      List.Forall₂ IsField (lines.takeWhile (· ≠ [])) fields := by
  induction lines generalizing fields with
  | nil => simp [parseHeaderLines, eq_comm (a := ([] : HeaderFields))]
  | cons line lines induction =>
      by_cases empty : line = []
      · simp [parseHeaderLines, empty, eq_comm (a := ([] : HeaderFields))]
      · rw [List.takeWhile_cons_of_pos (by simpa using empty)]
        rw [parseHeaderLines, if_neg empty]
        cases split : splitOnce ':' line with
        | none =>
            simp only [List.forall₂_cons_left_iff]
            constructor
            · simp
            · rintro ⟨field, _, ⟨before, after, found, _⟩, _⟩
              simp [split] at found
        | some parts =>
            obtain ⟨before, after⟩ := parts
            have isField : ∀ field, IsField line field ↔
                field = (trim before, trim after) := by
              intro field
              simp [IsField, split]
            simp only [List.forall₂_cons_left_iff, isField]
            cases rest : parseHeaderLines lines with
            | error error =>
                constructor
                · intro accepted
                  cases accepted
                · rintro ⟨field, others, _, matching, _⟩
                  rw [← induction, rest] at matching
                  cases matching
            | ok others =>
                constructor
                · intro accepted
                  obtain rfl : (trim before, trim after) :: others = fields :=
                    Except.ok.inj accepted
                  exact ⟨_, others, rfl, induction.mp rest, rfl⟩
                · rintro ⟨_, others', rfl, matching, rfl⟩
                  rw [← induction, rest] at matching
                  obtain rfl : others = others' := Except.ok.inj matching
                  rfl

theorem parseHeaderFields_eq_ok_iff {rawHead : Bytes} {fields : HeaderFields} :
    parseHeaderFields rawHead = .ok fields ↔
      ∃ head startLine lines, fromUtf8 rawHead = some head ∧
        splitCrlf head = startLine :: lines ∧
        List.Forall₂ IsField (lines.takeWhile (· ≠ [])) fields := by
  unfold parseHeaderFields
  cases decoded : fromUtf8 rawHead with
  | none => simp
  | some head =>
      cases pieces : splitCrlf head with
      | nil => exact (splitPair_ne_nil _ _ _ pieces).elim
      | cons startLine lines => simp [pieces, parseHeaderLines_eq_ok_iff]

/-- The parts of an accepted request head. -/
theorem parseHead_eq_ok {rawHead : Bytes} {method : HttpMethod} {path : Text}
    {headers : HeaderFields} (parsed : parseHead rawHead = .ok (method, path, headers)) :
    ∃ head requestLine lines token others,
      fromUtf8 rawHead = some head ∧ splitCrlf head = requestLine :: lines ∧
        splitWhitespace requestLine = token :: path :: others ∧
        method = HttpMethod.parse token ∧ parseHeaderFields rawHead = .ok headers := by
  unfold parseHead at parsed
  cases decoded : fromUtf8 rawHead with
  | none => simp [decoded] at parsed
  | some head =>
      cases pieces : splitCrlf head with
      | nil => simp [decoded, pieces] at parsed
      | cons requestLine lines =>
          cases tokens : splitWhitespace requestLine with
          | nil => simp [decoded, pieces, tokens] at parsed
          | cons token others =>
              cases others with
              | nil => simp [decoded, pieces, tokens] at parsed
              | cons target others =>
                  simp only [decoded, pieces, tokens] at parsed
                  cases fields : parseHeaderFields rawHead with
                  | error error =>
                      rw [fields] at parsed
                      cases parsed
                  | ok found =>
                      rw [fields] at parsed
                      cases parsed
                      exact ⟨head, requestLine, lines, token, others, rfl, pieces, tokens,
                        rfl, rfl⟩

/-- The second token of the status line is the code. -/
def HasStatus (statusLine : Text) (status : Nat) : Prop :=
  ∃ version code others, splitWhitespace statusLine = version :: code :: others ∧
    parseUnsigned u16Limit code = some status

theorem HasStatus.ne_nil {statusLine : Text} {status : Nat}
    (hasStatus : HasStatus statusLine status) : statusLine ≠ [] := by
  rintro rfl
  obtain ⟨version, code, others, tokens, _⟩ := hasStatus
  simp [splitWhitespace] at tokens

theorem parseStatusCode_eq_ok_iff {rawHead : Bytes} {status : Nat} :
    parseStatusCode rawHead = .ok status ↔
      ∃ head statusLine, fromUtf8 rawHead = some head ∧
        firstLine head = some statusLine ∧ HasStatus statusLine status := by
  unfold parseStatusCode
  cases fromUtf8 rawHead with
  | none => simp
  | some head =>
      cases found : firstLine head with
      | none => simp [found]
      | some statusLine =>
          simp only [found, Option.some.injEq, exists_and_left, exists_eq_left']
          cases tokens : splitWhitespace statusLine with
          | nil => simp [HasStatus, tokens]
          | cons version others =>
              cases others with
              | nil => simp [HasStatus, tokens]
              | cons code others =>
                  cases parsed : parseUnsigned u16Limit code with
                  | none => simp [HasStatus, tokens, parsed]
                  | some value => simp [HasStatus, tokens, parsed]

/-! ## Joined lines -/

/-- A line of a head: not empty, no terminator inside. -/
structure HeadLine (line : Text) : Prop where
  nonempty : line ≠ []
  free : ¬crlf <:+: line

/-- The bytes of a head with these lines. -/
def encodeHead (lines : List Text) : Bytes :=
  toUtf8 (joinPair '\r' '\n' lines) ++ headerEnd

theorem encodeHead_eq (lines : List Text) :
    encodeHead lines = toUtf8 (joinPair '\r' '\n' lines ++ crlf ++ crlf) := by
  simp only [encodeHead, toUtf8_append, List.append_assoc]
  rfl

theorem fromUtf8_encodeHead (lines : List Text) :
    fromUtf8 (encodeHead lines) =
      some (joinPair '\r' '\n' lines ++ crlf ++ crlf) := by
  rw [encodeHead_eq, fromUtf8_toUtf8]

private theorem splitPair_join {lines : List Text} (nonempty : lines ≠ [])
    (headLines : ∀ line ∈ lines, HeadLine line) (rest : Text) :
    splitPair '\r' '\n' (joinPair '\r' '\n' lines ++ crlf ++ rest) =
      lines ++ splitPair '\r' '\n' rest := by
  rw [List.append_assoc]
  change splitPair '\r' '\n' (joinPair '\r' '\n' lines ++ '\r' :: '\n' :: rest) = _
  rw [splitPair_append (by decide)]
  rw [splitPair_joinPair (by decide) nonempty fun line member =>
    (headLines line member).free]

theorem splitCrlf_encodeHead {lines : List Text} (nonempty : lines ≠ [])
    (headLines : ∀ line ∈ lines, HeadLine line) :
    splitCrlf (joinPair '\r' '\n' lines ++ crlf ++ crlf) = lines ++ [[], []] := by
  rw [splitCrlf, splitPair_join nonempty headLines]
  rfl

/-- A text with CRLFCRLF inside has an empty line. -/
private theorem nil_mem_splitPair {text : Text} (occurs : crlf ++ crlf <:+: text) :
    [] ∈ splitPair '\r' '\n' text := by
  obtain ⟨before, after, rfl⟩ := occurs
  have split : before ++ (crlf ++ crlf) ++ after =
      before ++ '\r' :: '\n' :: ('\r' :: '\n' :: after) := by simp
  rw [split, splitPair_append (by decide), splitPair_separator]
  simp

theorem isHead_encodeHead {lines : List Text} (nonempty : lines ≠ [])
    (headLines : ∀ line ∈ lines, HeadLine line) : IsHead (encodeHead lines) := by
  refine ⟨List.suffix_append _ _, fun occurs => ?_⟩
  have cut : (encodeHead lines).dropLast =
      toUtf8 (joinPair '\r' '\n' lines ++ crlf ++ ['\r']) := by
    rw [encodeHead, List.dropLast_append_of_ne_nil headerEnd_ne_nil,
      List.append_assoc, toUtf8_append]
    rfl
  rw [cut] at occurs
  have inText : crlf ++ crlf <:+: joinPair '\r' '\n' lines ++ crlf ++ ['\r'] :=
    isInfix_of_toUtf8_isInfix (by simp [IsAscii]) occurs
  have emptyLine := nil_mem_splitPair inText
  rw [splitPair_join nonempty headLines] at emptyLine
  rcases List.mem_append.mp emptyLine with inLines | inRest
  · exact (headLines [] inLines).nonempty rfl
  · simp [splitPair] at inRest

private theorem takeWhile_headLines {lines : List Text}
    (headLines : ∀ line ∈ lines, HeadLine line) :
    (lines ++ [[], []]).takeWhile (· ≠ []) = lines := by
  rw [List.takeWhile_append_of_pos]
  · simp
  · intro line member
    simpa using (headLines line member).nonempty

theorem parseHeaderFields_encodeHead {startLine : Text} {lines : List Text}
    {fields : HeaderFields} (headLines : ∀ line ∈ startLine :: lines, HeadLine line) :
    parseHeaderFields (encodeHead (startLine :: lines)) = .ok fields ↔
      List.Forall₂ IsField lines fields := by
  have linesOk := fun line member =>
    headLines line (List.mem_cons_of_mem startLine member)
  have split : splitCrlf (joinPair '\r' '\n' (startLine :: lines) ++ crlf ++ crlf) =
      startLine :: (lines ++ [[], []]) := splitCrlf_encodeHead (by simp) headLines
  rw [parseHeaderFields_eq_ok_iff, fromUtf8_encodeHead]
  constructor
  · rintro ⟨head, start, rest, decoded, pieces, matching⟩
    obtain rfl := Option.some.inj decoded
    rw [split] at pieces
    obtain ⟨rfl, rfl⟩ := List.cons.inj pieces
    rwa [takeWhile_headLines linesOk] at matching
  · intro matching
    refine ⟨_, startLine, lines ++ [[], []], rfl, split, ?_⟩
    rwa [takeWhile_headLines linesOk]

theorem firstLine_encodeHead {startLine : Text} (lines : List Text)
    (free : '\n' ∉ startLine) :
    firstLine (joinPair '\r' '\n' (startLine :: lines) ++ crlf ++ crlf) =
      some startLine := by
  cases lines with
  | nil =>
      have split : joinPair '\r' '\n' [startLine] ++ crlf ++ crlf =
          startLine ++ '\r' :: '\n' :: crlf := by
        simp [joinPair, List.intercalate]
      rw [split, firstLine_crlf crlf free]
  | cons next lines =>
      rw [joinPair_cons_cons, List.append_assoc, List.append_assoc]
      exact firstLine_crlf _ free

theorem parseStatusCode_encodeHead {startLine : Text} (lines : List Text)
    {status : Nat} (free : '\n' ∉ startLine) (hasStatus : HasStatus startLine status) :
    parseStatusCode (encodeHead (startLine :: lines)) = .ok status :=
  parseStatusCode_eq_ok_iff.mpr ⟨_, startLine, fromUtf8_encodeHead _,
    firstLine_encodeHead lines free, hasStatus⟩

/-! ## Fields -/

/-- A name and a value as the parser returns them: trimmed, no colon in the
name, no CRLF inside. -/
structure ReadField (field : Text × Text) : Prop where
  nameTrimmed : Trimmed field.1
  valueTrimmed : Trimmed field.2
  nameColonFree : ':' ∉ field.1
  nameFree : ¬crlf <:+: field.1
  valueFree : ¬crlf <:+: field.2

theorem IsField.readField {line : Text} {field : Text × Text}
    (isField : IsField line field) (free : ¬crlf <:+: line) : ReadField field := by
  obtain ⟨before, after, split, rfl⟩ := isField
  obtain ⟨rfl, colonFree⟩ := splitOnce_eq_some_iff.mp split
  constructor
  · exact trimmed_trim before
  · exact trimmed_trim after
  · exact fun member => colonFree ((trim_isInfix before).subset member)
  · exact fun occurs => free (occurs.trans ((trim_isInfix before).trans
      (List.prefix_append before _).isInfix))
  · exact fun occurs => free (occurs.trans ((trim_isInfix after).trans
      ((List.suffix_cons ':' after).trans (List.suffix_append before _)).isInfix))

/-- Every field of an accepted head is of this kind. -/
theorem readField_of_parseHeaderFields {rawHead : Bytes} {fields : HeaderFields}
    (accepted : parseHeaderFields rawHead = .ok fields) :
    ∀ field ∈ fields, ReadField field := by
  obtain ⟨head, startLine, lines, _, pieces, matching⟩ :=
    parseHeaderFields_eq_ok_iff.mp accepted
  have free : ∀ line ∈ lines.takeWhile (· ≠ []), ¬crlf <:+: line := by
    intro line member
    have inHead : line ∈ splitCrlf head := by
      rw [pieces]
      exact List.mem_cons_of_mem _ (List.takeWhile_prefix _ |>.subset member)
    exact free_of_mem_splitPair line inHead
  clear pieces accepted
  revert free matching
  generalize lines.takeWhile (· ≠ []) = used
  intro matching free
  induction matching with
  | nil => simp
  | cons isField _ induction =>
      intro field member
      rcases List.mem_cons.mp member with rfl | later
      · exact isField.readField (free _ (by simp))
      · exact induction (fun line inside =>
          free line (List.mem_cons_of_mem _ inside)) field later

/-- A blank of optional whitespace. -/
def IsBlank (char : Char) : Prop := char = ' ' ∨ char = '\t'

instance : DecidablePred IsBlank := fun char =>
  inferInstanceAs (Decidable (char = ' ' ∨ char = '\t'))

theorem IsBlank.isWhitespace {char : Char} (blank : IsBlank char) :
    isWhitespace char = true := by
  rcases blank with rfl | rfl <;> decide

/-- Optional whitespace around a value is not part of the field. -/
theorem isField_padded {name value before after : Text}
    (colonFree : ':' ∉ name) (nameTrimmed : Trimmed name)
    (valueTrimmed : Trimmed value) (beforeBlank : ∀ char ∈ before, IsBlank char)
    (afterBlank : ∀ char ∈ after, IsBlank char) :
    IsField (name ++ ':' :: (before ++ value ++ after)) (name, value) := by
  refine ⟨name, before ++ value ++ after,
    splitOnce_eq_some_iff.mpr ⟨rfl, colonFree⟩, ?_⟩
  rw [nameTrimmed, trim_padded (fun char member => (beforeBlank char member).isWhitespace)
    (fun char member => (afterBlank char member).isWhitespace) valueTrimmed]

theorem ReadField.isField {field : Text × Text} (readField : ReadField field) :
    IsField (formatField field) field := by
  have oneBlank : ∀ char ∈ [' '], IsBlank char := by simp [IsBlank]
  have noBlank : ∀ char ∈ ([] : Text), IsBlank char := by simp
  have padded := isField_padded readField.nameColonFree readField.nameTrimmed
    readField.valueTrimmed oneBlank noBlank
  simpa [formatField] using padded

theorem ReadField.headLine {field : Text × Text} (readField : ReadField field) :
    HeadLine (formatField field) := by
  refine ⟨by simp [formatField], fun occurs => ?_⟩
  rcases isInfix_append_cons (by decide) occurs with inName | inRest
  · exact readField.nameFree inName
  · rcases List.infix_cons_iff.mp inRest with starts | inValue
    · simp at starts
    · exact readField.valueFree inValue

end Mzani
