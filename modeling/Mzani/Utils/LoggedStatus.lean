import Mzani.Core.AcceptedResponses
import Mzani.Support.TextPrefix
import Mzani.Utils.LogRecord

/-!
# The logged status

The status in the log is parsed from the first bytes of the response that is
sent on.  It is the status of the backend exactly if these bytes are a text
that reaches to the end of the code.
-/

namespace Mzani

open Support

theorem hasStatus_iff {line : Text} {status : Nat} :
    HasStatus line status ↔ parseUnsigned u16Limit (secondWord line) = some status := by
  constructor
  · rintro ⟨version, code, others, words, parsed⟩
    have nonempty : code ≠ [] := by
      rintro rfl
      cases parsed
    rw [(splitWhitespace_second_iff nonempty).mp ⟨version, others, words⟩]
    exact parsed
  · intro parsed
    have nonempty : secondWord line ≠ [] := by
      intro none
      rw [none] at parsed
      cases parsed
    obtain ⟨version, others, words⟩ := (splitWhitespace_second_iff nonempty).mpr rfl
    exact ⟨version, _, others, words, parsed⟩

theorem parseStatusForLog_eq_some_iff {response : Bytes} {status : Nat} :
    parseStatusForLog response = some status ↔
      ∃ head statusLine, fromUtf8 (response.take 128) = some head ∧
        firstLine head = some statusLine ∧ HasStatus statusLine status := by
  unfold parseStatusForLog
  cases fromUtf8 (response.take 128) with
  | none => simp
  | some head =>
      cases found : firstLine head with
      | none => simp [found]
      | some statusLine =>
          simp only [found, Option.some.injEq, exists_and_left, exists_eq_left']
          cases tokens : splitWhitespace statusLine with
          | nil => simp [HasStatus, tokens]
          | cons version others =>
              cases others with
              | nil => simp [HasStatus, tokens]
              | cons code others => simp [HasStatus, tokens]

section

variable {text line shown : Text} {status : Nat} (occurs : '\n' ∈ text)
  (first : firstLine text = some line) (hasStatus : HasStatus line status)

include occurs first hasStatus

/-- The code of the first line is the second word of the whole text. -/
theorem secondWord_of_firstLine :
    secondWord text = secondWord line ∧ upToSecond text status = upToSecond line status := by
  have parsed := hasStatus_iff.mp hasStatus
  have left : secondOn line ≠ [] := by
    intro none
    rw [secondWord_nil_iff.mpr none] at parsed
    cases parsed
  obtain ⟨more, rfl, ended⟩ := firstLine_followed occurs first
  have word := secondWord_append left ended
  constructor
  · exact word
  · rw [upToSecond, upToSecond, word, beforeSecond_append left]

/-- A text that is cut off shows the status if it reaches far enough. -/
theorem firstLine_cut_iff (isPrefix : shown <+: text) :
    (∃ statusLine, firstLine shown = some statusLine ∧ HasStatus statusLine status) ↔
      upToSecond line status <+: shown := by
  obtain ⟨word, telling⟩ := secondWord_of_firstLine occurs first hasStatus
  by_cases inside : '\n' ∈ shown
  · obtain ⟨more, rfl⟩ := isPrefix
    rw [firstLine_append inside] at first
    obtain ⟨after, whole, _⟩ := firstLine_followed inside first
    constructor
    · intro _
      rw [whole]
      exact (upToSecond_isPrefix line status).trans (List.prefix_append _ _)
    · intro _
      exact ⟨line, first, hasStatus⟩
  · rw [← telling]
    have parsed : parseUnsigned u16Limit (secondWord text) = some status := by
      rw [word]
      exact hasStatus_iff.mp hasStatus
    rw [← parseUnsigned_secondWord_iff (by decide) parsed isPrefix, ← hasStatus_iff]
    constructor
    · rintro ⟨statusLine, found, has⟩
      have nonempty : shown ≠ [] := by
        rintro rfl
        cases found
      rw [firstLine_of_free nonempty inside, Option.some.injEq] at found
      rw [found]
      exact has
    · intro has
      exact ⟨shown, firstLine_of_free has.ne_nil inside, has⟩

end

namespace AcceptedResponse

variable {σ : Type} [Read σ] {limits : Limits} {stream : σ}

/-- The first 128 bytes of the message are a text, and the status line shows its
code within them. -/
structure LogsStatus (response : AcceptedResponse limits stream) : Prop where
  readable : ReadableUpTo 128 response.sentHead response.sentBody
  early : (toUtf8 (upToSecond response.statusLine response.status)).length ≤ 128

theorem lineFeed_mem_sentHead (response : AcceptedResponse limits stream) :
    '\n' ∈ response.sentHead := by
  unfold sentHead
  split
  · exact response.crlf_isInfix_text.subset (by simp)
  · simp

/-- The status in the log is the one that the framing was chosen by exactly if
the message shows it in its first 128 bytes. -/
theorem parseStatusForLog_out_iff (response : AcceptedResponse limits stream) :
    parseStatusForLog response.out = some response.status ↔ response.LogsStatus := by
  have occurs := response.lineFeed_mem_sentHead
  have first := response.firstLine_sentHead
  have reaches {shown : Text} (cut : shown <+: response.sentHead) :=
    firstLine_cut_iff occurs first response.hasStatus cut
  have isPrefix : upToSecond response.statusLine response.status <+: response.sentHead := by
    obtain ⟨more, whole, _⟩ := firstLine_followed occurs first
    rw [whole]
    exact (upToSecond_isPrefix _ _).trans (List.prefix_append _ _)
  rw [parseStatusForLog_eq_some_iff]
  constructor
  · rintro ⟨head, statusLine, decoded, found, has⟩
    constructor
    · apply isSome_fromUtf8_take_iff.mp
      exact Option.isSome_iff_exists.mpr ⟨head, decoded⟩
    · rcases prefix_of_fromUtf8_take decoded with ⟨cut, length⟩ | ⟨_, short, _⟩
      · rw [← length]
        have shown := (reaches cut).mp ⟨statusLine, found, has⟩
        exact (toUtf8_isPrefix_iff.mpr shown).length_le
      · have bound := (toUtf8_isPrefix_iff.mpr isPrefix).length_le
        omega
  · rintro ⟨readable, early⟩
    obtain ⟨head, decoded⟩ :=
      Option.isSome_iff_exists.mp (isSome_fromUtf8_take_iff.mpr readable)
    have shown : ∃ statusLine, firstLine head = some statusLine ∧
        HasStatus statusLine response.status := by
      rcases prefix_of_fromUtf8_take decoded with ⟨cut, length⟩ | ⟨⟨more, rfl⟩, _, _⟩
      · apply (reaches cut).mpr
        rw [isPrefix_iff_length_toUtf8_le isPrefix cut, length]
        exact early
      · refine ⟨response.statusLine, ?_, response.hasStatus⟩
        rw [firstLine_append occurs]
        exact first
    obtain ⟨statusLine, found, has⟩ := shown
    exact ⟨head, statusLine, decoded, found, has⟩

/-- A picture of one byte. -/
def pictureHead : Bytes :=
  toUtf8 "HTTP/1.1 200 OK\r\nContent-Length: 1\r\n\r\n".toList

def pictureStream : Source := [.ok ⟨pictureHead ++ [255], by decide⟩]

/-- The byte is no text, so there is no status in the log. -/
theorem picture_without_status :
    (readHttpResponse {} pictureStream).1 = .ok (pictureHead ++ [255]) ∧
      parseStatusCode pictureHead = .ok 200 ∧
      parseStatusForLog (pictureHead ++ [255]) = none := by
  decide +kernel

end AcceptedResponse

end Mzani
