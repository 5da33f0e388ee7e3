import Mzani.Core.HeaderScan

/-!
# The scan in one shot

`read_header_block` searches the buffer again after every read.  What it finds
is what a single search over all bytes of the stream finds: the shortest prefix
that the header terminator ends.
-/

namespace Mzani

open Support

/-- The bytes of a content before its first failed read. -/
def bytesOf : List Item → Bytes
  | .byte value :: items => value :: bytesOf items
  | .fail _ :: _ => []
  | [] => []

/-- The head that one search over these bytes finds. -/
def oneShotHead (content : List Item) : Option Bytes :=
  (findSubslice (bytesOf content) headerEnd).map fun index =>
    (bytesOf content).take (index + headerEnd.length)

/-- The shortest prefix of the content that ends with the header terminator. -/
structure ShortestHead (content : List Item) (head : Bytes) : Prop where
  isPrefix : head.map .byte <+: content
  terminated : headerEnd <:+ head
  shortest : ∀ other : Bytes, other.map .byte <+: content → headerEnd <:+ other →
    head.length ≤ other.length

/-- What reading in pieces and searching after each piece has in common with
one search over the whole stream. -/
structure ScansInOneShot {σ : Type} [ByteStream σ] (maxHeaderBytes : Nat) (stream : σ) :
    Prop where
  sound : ∀ head bodyPrefix rest,
    readHeaderBlock maxHeaderBytes stream = (.ok (head, bodyPrefix), rest) →
      ShortestHead (ByteStream.items stream) head ∧
        oneShotHead (ByteStream.items stream) = some head ∧
        ByteStream.items stream =
          (head ++ bodyPrefix).map .byte ++ ByteStream.items rest ∧
        bodyPrefix.length < 4096
  complete : ∀ head, ShortestHead (ByteStream.items stream) head →
    head.length ≤ maxHeaderBytes + 1 →
      ∃ bodyPrefix rest,
        readHeaderBlock maxHeaderBytes stream = (.ok (head, bodyPrefix), rest)

section

variable {content : List Item} {head bytes : Bytes}

theorem map_byte_isPrefix_iff :
    bytes.map .byte <+: content ↔ bytes <+: bytesOf content := by
  induction bytes generalizing content with
  | nil => simp
  | cons value bytes ih =>
      cases content with
      | nil => simp [bytesOf]
      | cons item content =>
          cases item with
          | byte other => simp [bytesOf, List.cons_prefix_cons, ih]
          | fail error => simp [bytesOf, List.cons_prefix_cons]

/-- The shortest prefix is a message head at the start of the content. -/
theorem shortestHead_iff :
    ShortestHead content head ↔ head <+: bytesOf content ∧ IsHead head := by
  have inHead : ∀ {other : Bytes}, head <+: bytesOf content → other <+: head →
      other.map .byte <+: content := by
    intro other isPrefix inside
    exact map_byte_isPrefix_iff.mpr (inside.trans isPrefix)
  rw [IsHead, EndsFirst.iff_shortest headerEnd_ne_nil]
  constructor
  · intro found
    have isPrefix := map_byte_isPrefix_iff.mp found.isPrefix
    refine ⟨isPrefix, found.terminated, fun other inside terminated => ?_⟩
    have long := found.shortest other (inHead isPrefix inside) terminated
    exact inside.eq_of_length_le long
  · rintro ⟨isPrefix, terminated, shortest⟩
    refine ⟨map_byte_isPrefix_iff.mpr isPrefix, terminated, fun other inContent ended => ?_⟩
    rcases List.prefix_or_prefix_of_prefix isPrefix (map_byte_isPrefix_iff.mp inContent) with
      longer | shorter
    · exact longer.length_le
    · rw [shortest other shorter ended]

/-- One search finds the shortest prefix. -/
theorem oneShotHead_eq_some_iff : oneShotHead content = some head ↔ ShortestHead content head := by
  rw [shortestHead_iff]
  constructor
  · intro found
    obtain ⟨index, atIndex, rfl⟩ := Option.map_eq_some_iff.mp found
    obtain ⟨_, isHead⟩ := findSubslice_eq_some headerEnd_ne_nil atIndex
    exact ⟨List.take_prefix _ _, isHead⟩
  · rintro ⟨⟨rest, whole⟩, isHead⟩
    obtain ⟨index, atIndex, length⟩ := findSubslice_head isHead rest
    rw [oneShotHead, ← whole, atIndex, Option.map_some, length, List.take_left]

theorem exists_tail_of_shortestHead (found : ShortestHead content head) :
    ∃ tail, content = head.map .byte ++ tail := by
  obtain ⟨tail, whole⟩ := found.isPrefix
  exact ⟨tail, whole.symm⟩

end

/-- However a stream cuts its bytes, the scan gives the head that one search
over all of them gives, and it gives one whenever the head ends within one byte
more than the limit. -/
theorem readHeaderBlock_scansInOneShot {σ : Type} [ByteStream σ] (maxHeaderBytes : Nat)
    (stream : σ) : ScansInOneShot maxHeaderBytes stream := by
  constructor
  · intro head bodyPrefix rest answer
    obtain ⟨content, isHead, short⟩ := readHeaderBlock_ok answer
    have inContent : head.map .byte <+: ByteStream.items stream := by
      rw [content, List.map_append, List.append_assoc]
      exact List.prefix_append _ _
    have found : ShortestHead (ByteStream.items stream) head :=
      shortestHead_iff.mpr ⟨map_byte_isPrefix_iff.mp inContent, isHead⟩
    exact ⟨found, oneShotHead_eq_some_iff.mpr found, content, short⟩
  · intro head found within
    have isHead := (shortestHead_iff.mp found).2
    obtain ⟨tail, content⟩ := exists_tail_of_shortestHead found
    obtain ⟨bodyPrefix, rest, answer, _⟩ := readHeaderBlock_finds isHead within content
    exact ⟨bodyPrefix, rest, answer⟩

end Mzani
