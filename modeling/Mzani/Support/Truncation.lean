import Mzani.Support.ByteStream

/-!
# Cut-off contents

A content that is cut off after some bytes and then ends or fails.  A
computation that only ever takes bytes it was given answers on such a content
as it would on any continuation of the bytes, so a decoder that uses up its
input exactly fails on every strict prefix of it.
-/

namespace Support

/-- A content that no retrying reader gets a byte of: it is over, fails, or
is interrupted and then of this kind again. -/
def CutOff : List Item → Prop
  | [] => True
  | .byte _ :: _ => False
  | .fail error :: rest => error.kind = .interrupted → CutOff rest

theorem CutOff.stops {tail : List Item} (cutOff : CutOff tail) : Stops tail := by
  intro value starts
  cases tail with
  | nil => simp at starts
  | cons item tail =>
      obtain rfl : item = .byte value := by simpa using starts
      exact cutOff

/-- Nothing is taken from a cut-off content. -/
theorem takeExact_cutOff (need : Nat) {tail : List Item} (cutOff : CutOff tail) :
    ∃ error, (takeExact (need + 1) tail).1 = .error error := by
  induction tail with
  | nil => exact ⟨_, rfl⟩
  | cons item tail induction =>
      cases item with
      | byte value => exact cutOff.elim
      | fail error =>
          by_cases again : error.kind = .interrupted
          · simpa [takeExact, again] using induction (cutOff again)
          · exact ⟨error, by simp [takeExact, again]⟩

/-- A successful answer on a cut-off content takes some of the bytes before
the cut, and is the answer on every content that starts with these bytes. -/
def Local {ε α : Type} (action : Reading ε (List Item) α) : Prop :=
  ∀ ⦃bytes : Bytes⦄ ⦃tail rest : List Item⦄ ⦃value : α⦄, CutOff tail →
    action (bytes.map .byte ++ tail) = (.ok value, rest) →
      ∃ taken left, bytes = taken ++ left ∧ ∀ other,
        action (bytes.map .byte ++ other) = (.ok value, left.map .byte ++ other)

namespace Local

variable {ε ε' α β : Type}

theorem pure (value : α) : Local (Pure.pure value : Reading ε (List Item) α) := by
  intro bytes tail rest result _ answer
  rw [Reading.pure_apply, Prod.mk.injEq, Except.ok.injEq] at answer
  obtain ⟨rfl, rfl⟩ := answer
  exact ⟨[], bytes, rfl, fun _ => rfl⟩

theorem fail (error : ε) : Local (Reading.fail error : Reading ε (List Item) α) := by
  intro bytes tail rest result _ answer
  simp at answer

theorem bind {first : Reading ε (List Item) α}
    {next : α → Reading ε (List Item) β} (firstLocal : Local first)
    (nextLocal : ∀ value, Local (next value)) : Local (first >>= next) := by
  intro bytes tail rest result cutOff answer
  obtain ⟨value, middle, firstAnswer, nextAnswer⟩ := Reading.bind_eq_ok_iff.mp answer
  obtain ⟨taken, left, rfl, firstAgain⟩ := firstLocal cutOff firstAnswer
  have sameMiddle := firstAnswer.symm.trans (firstAgain tail)
  obtain rfl : middle = left.map .byte ++ tail := congrArg Prod.snd sameMiddle
  obtain ⟨more, last, rfl, nextAgain⟩ := nextLocal value cutOff nextAnswer
  refine ⟨taken ++ more, last, (List.append_assoc _ _ _).symm, fun other => ?_⟩
  rw [Reading.bind_of_ok (firstAgain other)]
  exact nextAgain other

theorem mapError {action : Reading ε (List Item) α} (isLocal : Local action)
    (convert : ε → ε') : Local (Reading.mapError convert action) := by
  intro bytes tail rest result cutOff answer
  obtain ⟨taken, left, split, again⟩ :=
    isLocal cutOff (Reading.mapError_eq_ok_iff.mp answer)
  exact ⟨taken, left, split, fun other => Reading.mapError_of_ok (again other)⟩

theorem readBuffer (need : Nat) :
    Local (Support.readBuffer need : Reading IoError (List Item) _) := by
  intro bytes tail rest buffer cutOff answer
  by_cases enough : need ≤ bytes.length
  · have whole : bytes.take need ++ bytes.drop need = bytes :=
      List.take_append_drop need bytes
    have length : (bytes.take need).length = need := List.length_take_of_le enough
    have filled : ∀ other : List Item,
        Support.readBuffer need (bytes.map Item.byte ++ other) =
          (.ok ⟨bytes.take need, length⟩, (bytes.drop need).map .byte ++ other) := by
      intro other
      have taken : readExact need (bytes.map .byte ++ other) =
          (.ok (bytes.take need), (bytes.drop need).map .byte ++ other) := by
        rw [readExact_content]
        nth_rewrite 1 [← whole]
        rw [List.map_append, List.append_assoc, takeExact_bytes length]
      exact readBuffer_of_ok taken
    have same := answer.symm.trans (filled tail)
    rw [Prod.mk.injEq, Except.ok.injEq] at same
    exact ⟨bytes.take need, bytes.drop need, whole.symm, by rw [same.1]; exact filled⟩
  · -- the buffer would have to be filled from behind the cut
    obtain ⟨missing, rfl⟩ : ∃ missing, need = bytes.length + (missing + 1) :=
      ⟨need - bytes.length - 1, by omega⟩
    obtain ⟨error, failed⟩ := takeExact_cutOff missing cutOff
    have taken := takeExact_append bytes.length (missing + 1) bytes rfl tail
    cases behind : takeExact (missing + 1) tail with
    | mk outcome last =>
        rw [behind] at failed taken
        obtain rfl : outcome = .error error := failed
        rw [← readExact_content] at taken
        rw [readBuffer_of_error taken] at answer
        simp at answer

/-- If a local computation can only succeed by using up all of `whole`, it
fails on every strict prefix of it. -/
theorem truncated {action : Reading ε (List Item) α} (isLocal : Local action)
    {whole pre : Bytes} {tail : List Item}
    (usesUp : ∀ value rest, action (whole.map .byte) = (.ok value, rest) → rest = [])
    (isPrefix : pre <+: whole) (strict : pre ≠ whole) (cutOff : CutOff tail) :
    ∃ error, (action (pre.map .byte ++ tail)).1 = .error error := by
  cases answer : action (pre.map .byte ++ tail) with
  | mk outcome rest =>
      cases outcome with
      | error error => exact ⟨error, rfl⟩
      | ok value =>
          obtain ⟨missing, rfl⟩ := isPrefix
          obtain ⟨taken, left, _, again⟩ := isLocal cutOff answer
          have onWhole := again (missing.map .byte)
          rw [← List.map_append, ← List.map_append] at onWhole
          have nothingLeft := usesUp value _ onWhole
          simp only [List.map_eq_nil_iff, List.append_eq_nil_iff] at nothingLeft
          exact (strict (by rw [nothingLeft.2, List.append_nil])).elim

end Local

end Support
