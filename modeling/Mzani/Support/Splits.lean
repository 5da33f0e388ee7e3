import Mzani.Support.ByteStream

/-!
# Splits of a content

Scripted streams for a given content, what one read can contribute to the
reads that deliver a run of bytes, and contents without their interrupted
reads.
-/

namespace Support

/-- The last of the reads that deliver `need` bytes is no larger than a
read. -/
theorem le_of_fetch {σ : Type} [Read σ] {size need before past : Nat} {stream : σ}
    (fetched : fetch size need stream = some (before, past)) :
    need ≤ before + size := by
  induction need using Nat.strong_induction_on generalizing stream before with
  | _ need induction =>
      rw [fetch] at fetched
      cases answer : Read.read size stream with
      | mk outcome next =>
          cases outcome with
          | error error => simp [answer] at fetched
          | ok chunk =>
              have short := Read.length_read_le answer
              by_cases ended : chunk = []
              · simp [answer, ended] at fetched
              · have positive := List.length_pos_iff.mpr ended
                rw [answer] at fetched
                simp only [dif_neg ended] at fetched
                by_cases last : need ≤ chunk.length
                · omega
                · rw [if_neg last] at fetched
                  obtain ⟨⟨later, beyond⟩, restFetched, same⟩ :=
                    Option.map_eq_some_iff.mp fetched
                  obtain ⟨rfl, rfl⟩ := Prod.mk.inj same
                  have reached := induction _ (by omega) restFetched
                  omega

namespace Source

/-- The reads that deliver a content one item at a time. -/
def oneByOne (content : List Item) : Source :=
  content.map fun
    | .byte value => .ok ⟨[value], by simp⟩
    | .fail error => .error error

theorem items_oneByOne (content : List Item) : (oneByOne content).items = content := by
  induction content with
  | nil => rfl
  | cons item content induction =>
      cases item with
      | byte value =>
          change ([value].map Item.byte ++ (oneByOne content).items) = _
          rw [induction]
          rfl
      | fail error =>
          change Item.fail error :: (oneByOne content).items = _
          rw [induction]

/-- Some bytes one at a time, then a segment in one read, then the rest one
at a time. -/
def lateSegment (first : Bytes) (segment : Segment) (rest : List Item) : Source :=
  oneByOne (first.map .byte) ++ .ok segment :: oneByOne rest

theorem items_lateSegment (first : Bytes) (segment : Segment) (rest : List Item) :
    (lateSegment first segment rest).items =
      (first ++ segment.val).map .byte ++ rest := by
  have front := items_oneByOne (first.map .byte)
  have back := items_oneByOne rest
  unfold Source.items at front back
  simp [lateSegment, Source.items, List.flatMap_append, front, back]

/-- The segment is the read that delivers its last byte. -/
theorem fetch_lateSegment {size : Nat} (first : Bytes) (segment : Segment)
    (rest : List Item) (fits : segment.val.length ≤ size) :
    fetch size (first.length + segment.val.length) (lateSegment first segment rest) =
      some (first.length, 0) := by
  have positive : 0 < segment.val.length := List.length_pos_iff.mpr segment.property
  induction first with
  | nil =>
      have answer : Read.read size (lateSegment [] segment rest) =
          (.ok segment.val, oneByOne rest) := by
        change Source.read size (.ok segment :: oneByOne rest) = _
        simp [Source.read, Nat.not_lt.mpr fits]
      rw [fetch_of_read _ answer segment.property]
      simp
  | cons value first induction =>
      have answer : Read.read size (lateSegment (value :: first) segment rest) =
          (.ok [value], lateSegment first segment rest) := by
        change Source.read size (.ok ⟨[value], _⟩ :: lateSegment first segment rest) = _
        have oneFits : ¬size < 1 := by omega
        simp [Source.read, oneFits]
      rw [fetch_of_read _ answer (by simp), if_neg (by simp; omega)]
      have left : (value :: first).length + segment.val.length - [value].length =
          first.length + segment.val.length := by
        simp
      rw [left, induction]
      simp [Nat.add_comm]

end Source

/-! ## Interrupted reads -/

/-- The content without its interrupted reads. -/
def uninterrupted (content : List Item) : List Item :=
  content.filter fun
    | .byte _ => true
    | .fail error => error.kind ≠ .interrupted

theorem uninterrupted_byte (value : UInt8) (content : List Item) :
    uninterrupted (.byte value :: content) = .byte value :: uninterrupted content := by
  simp [uninterrupted]

theorem uninterrupted_fail (error : IoError) (content : List Item) :
    uninterrupted (.fail error :: content) =
      if error.kind = .interrupted then uninterrupted content
      else .fail error :: uninterrupted content := by
  by_cases again : error.kind = .interrupted <;> simp [uninterrupted, again]

/-- Retrying readers take the same bytes without the interrupted reads. -/
theorem carried_uninterrupted (need : Nat) :
    Carried uninterrupted (readExact need : Reading IoError (List Item) Bytes)
      (readExact need) := by
  intro content
  rw [readExact_content, readExact_content]
  induction content generalizing need with
  | nil => cases need <;> rfl
  | cons item content induction =>
      cases need with
      | zero => simp [takeExact]
      | succ need =>
          cases item with
          | byte value =>
              rw [uninterrupted_byte, takeExact, takeExact, induction need]
              cases takeExact need content with
              | mk outcome rest => cases outcome <;> rfl
          | fail error =>
              rw [uninterrupted_fail, takeExact]
              by_cases again : error.kind = .interrupted
              · rw [if_pos again, if_pos again]
                exact induction (need + 1)
              · rw [if_neg again, if_neg again, takeExact, if_neg again]

/-- Bytes that were taken stood in front. -/
theorem takeExact_ok {need : Nat} {content rest : List Item} {bytes : Bytes}
    (taken : takeExact need content = (.ok bytes, rest)) :
    uninterrupted content = bytes.map .byte ++ uninterrupted rest := by
  induction content generalizing need bytes with
  | nil => cases need <;> simp_all [takeExact]
  | cons item content induction =>
      cases need with
      | zero =>
          obtain ⟨⟨rfl⟩, rfl⟩ := Prod.mk.inj taken
          rfl
      | succ need =>
          cases item with
          | byte value =>
              rw [takeExact] at taken
              cases later : takeExact need content with
              | mk outcome last =>
                  cases outcome with
                  | error error => simp [later] at taken
                  | ok more =>
                      simp only [later, Prod.mk.injEq, Except.ok.injEq] at taken
                      obtain ⟨rfl, rfl⟩ := taken
                      rw [uninterrupted_byte, induction later]
                      rfl
          | fail error =>
              rw [takeExact] at taken
              by_cases again : error.kind = .interrupted
              · rw [if_pos again] at taken
                rw [uninterrupted_fail, if_pos again]
                exact induction taken
              · simp [again] at taken

end Support
