import Mzani.Core.HeaderScan
import Mzani.Support.Splits

/-!
# The header limit

The scan compares the size with the limit before each read, so the read that
completes a head is not counted.  A head that is longer than the limit by at
most one read passes in some splits of the stream, and a head that is longer by
one byte passes in all of them.
-/

namespace Mzani

open Support

/-- In every split of the content, a head that is returned keeps to the limit,
and all splits agree on whether one is returned. -/
def CapsHeaders (maxHeaderBytes : Nat) (content : List Item) : Prop :=
  (∀ (σ : Type) [ByteStream σ] (stream : σ), ByteStream.items stream = content →
    ∀ head bodyPrefix, (readHeaderBlock maxHeaderBytes stream).1 = .ok (head, bodyPrefix) →
      head.length ≤ maxHeaderBytes) ∧
    ∀ (σ τ : Type) [ByteStream σ] [ByteStream τ] (stream : σ) (other : τ),
      ByteStream.items stream = content → ByteStream.items other = content →
        ((∃ parts, (readHeaderBlock maxHeaderBytes stream).1 = .ok parts) ↔
          ∃ parts, (readHeaderBlock maxHeaderBytes other).1 = .ok parts)

/-- The content starts with this head. -/
def StartsWithHead (head : Bytes) (content : List Item) : Prop :=
  IsHead head ∧ ∃ tail, content = head.map .byte ++ tail

theorem startsWithHead_of_ok {σ : Type} [ByteStream σ] {maxHeaderBytes : Nat} {stream : σ}
    {head bodyPrefix : Bytes}
    (answer : (readHeaderBlock maxHeaderBytes stream).1 = .ok (head, bodyPrefix)) :
    StartsWithHead head (ByteStream.items stream) := by
  obtain ⟨content, isHead, _⟩ := readHeaderBlock_ok (Prod.ext answer rfl)
  rw [List.map_append, List.append_assoc] at content
  exact ⟨isHead, _, content⟩

/-- A head passes in no split if not even the largest last read reaches its
end from the limit. -/
theorem length_le_of_ok {σ : Type} [ByteStream σ] {maxHeaderBytes : Nat} {stream : σ}
    {head bodyPrefix : Bytes}
    (answer : (readHeaderBlock maxHeaderBytes stream).1 = .ok (head, bodyPrefix)) :
    head.length ≤ maxHeaderBytes + 4096 := by
  obtain ⟨before, fetched, within⟩ := readHeaderBlock_fetch (Prod.ext answer rfl)
  have reached := le_of_fetch fetched
  omega

/-- A head that is too long by no more than one read passes in some split. -/
theorem passes_lateSegment {maxHeaderBytes : Nat} {head : Bytes} {tail : List Item}
    (isHead : IsHead head) (long : maxHeaderBytes < head.length)
    (close : head.length ≤ maxHeaderBytes + 4096) :
    ∃ stream : Source, stream.items = head.map .byte ++ tail ∧
      ∃ bodyPrefix,
        (readHeaderBlock maxHeaderBytes stream).1 = .ok (head, bodyPrefix) := by
  have lastLength : (head.drop maxHeaderBytes).length = head.length - maxHeaderBytes :=
    List.length_drop
  have lastNonempty : head.drop maxHeaderBytes ≠ [] := by
    apply List.ne_nil_of_length_pos
    omega
  have firstLength : (head.take maxHeaderBytes).length = maxHeaderBytes :=
    List.length_take_of_le (Nat.le_of_lt long)
  let stream := Source.lateSegment (head.take maxHeaderBytes)
    ⟨head.drop maxHeaderBytes, lastNonempty⟩ tail
  have content : stream.items = head.map .byte ++ tail := by
    rw [Source.items_lateSegment, List.take_append_drop]
  have fetched : fetch 4096 head.length stream = some (maxHeaderBytes, 0) := by
    have lastFits : (head.drop maxHeaderBytes).length ≤ 4096 := by omega
    have late := Source.fetch_lateSegment (head.take maxHeaderBytes)
      ⟨head.drop maxHeaderBytes, lastNonempty⟩ tail lastFits
    rwa [firstLength, lastLength, Nat.add_sub_cancel' (Nat.le_of_lt long)] at late
  obtain ⟨bodyPrefix, rest, found, _, _⟩ :=
    readHeaderBlock_fetched isHead content fetched (Nat.le_refl _)
  exact ⟨stream, content, bodyPrefix, by rw [found]⟩

/-- The limit holds, in all splits alike, exactly where no head is longer than
the limit by at most one read. -/
theorem capsHeaders_iff (maxHeaderBytes : Nat) (content : List Item) :
    CapsHeaders maxHeaderBytes content ↔
      ∀ head, StartsWithHead head content →
        head.length ≤ maxHeaderBytes ∨ maxHeaderBytes + 4096 < head.length := by
  constructor
  · rintro ⟨capped, _⟩ head ⟨isHead, tail, rfl⟩
    by_contra between
    rw [not_or, Nat.not_le, Nat.not_lt] at between
    obtain ⟨stream, items, bodyPrefix, found⟩ :=
      passes_lateSegment isHead between.1 between.2
    have short := capped Source stream items head bodyPrefix found
    omega
  · intro apart
    have finds : ∀ (σ : Type) [ByteStream σ] (stream : σ),
        ByteStream.items stream = content →
          ((∃ parts, (readHeaderBlock maxHeaderBytes stream).1 = .ok parts) ↔
            ∃ head, StartsWithHead head content ∧ head.length ≤ maxHeaderBytes) := by
      intro σ _ stream items
      constructor
      · rintro ⟨⟨head, bodyPrefix⟩, found⟩
        have starts := startsWithHead_of_ok found
        rw [items] at starts
        have near := length_le_of_ok found
        rcases apart head starts with short | far
        · exact ⟨head, starts, short⟩
        · omega
      · rintro ⟨head, ⟨isHead, tail, whole⟩, short⟩
        obtain ⟨bodyPrefix, rest, found, _⟩ := readHeaderBlock_finds isHead
          (Nat.le_succ_of_le short) (items.trans whole)
        exact ⟨(head, bodyPrefix), by rw [found]⟩
    constructor
    · intro σ _ stream items head bodyPrefix found
      have starts := startsWithHead_of_ok found
      rw [items] at starts
      have near := length_le_of_ok found
      rcases apart head starts with short | far
      · exact short
      · omega
    · intro σ τ _ _ stream other items otherItems
      rw [finds σ stream items, finds τ other otherItems]

/-- A head of 18 bytes. -/
def shortHead : Bytes := toUtf8 "GET / HTTP/1.1\r\n\r\n".toList

def shortSegment : Segment := ⟨shortHead, by decide⟩

/-- Under a limit of ten bytes it passes in one read, and not byte by byte. -/
theorem shortHead_passes :
    (readHeaderBlock 10 ([.ok shortSegment] : Source)).1 = .ok (shortHead, []) ∧
      shortHead.length = 18 ∧
      (readHeaderBlock 10 (Source.oneByOne (shortHead.map .byte))).1 =
        .error (parseErr "header block exceeds maximum size") ∧
      ¬CapsHeaders 10 (shortHead.map .byte) := by
  have passes : (readHeaderBlock 10 ([.ok shortSegment] : Source)).1 = .ok (shortHead, []) := by
    decide +kernel
  have length : shortHead.length = 18 := by decide +kernel
  refine ⟨passes, length, by decide +kernel, ?_⟩
  rintro ⟨capped, _⟩
  have content : ByteStream.items ([.ok shortSegment] : Source) = shortHead.map .byte :=
    List.append_nil _
  have short := capped Source [.ok shortSegment] content shortHead [] passes
  omega

end Mzani
