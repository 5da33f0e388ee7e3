import Mzani.Core.Request
import Mzani.Support.Occurrence

/-!
# The incremental header scan

`read_header_block` looks for the end of the head after every read.  However
the stream splits its bytes, a head it returns is the shortest prefix of the
stream that the header terminator ends, and what it read past the head is
handed on.
-/

namespace Mzani

open Support

/-- A complete message head: the header terminator ends it and occurs nowhere
before. -/
abbrev IsHead (head : Bytes) : Prop := EndsFirst headerEnd head

theorem IsHead.ne_nil {head : Bytes} (isHead : IsHead head) : head ≠ [] := by
  rintro rfl
  simpa [headerEnd] using isHead.1

theorem headerEnd_ne_nil : headerEnd ≠ [] := by decide

/-- A head reaches past every prefix of the stream without the terminator. -/
theorem length_lt_of_isHead {head buf more : Bytes}
    (free : ¬headerEnd <:+: buf) (isPrefix : head <+: buf ++ more)
    (isHead : IsHead head) : buf.length < head.length := by
  by_contra short
  have inBuf : head <+: buf :=
    List.prefix_of_prefix_length_le isPrefix (List.prefix_append buf more)
      (Nat.le_of_not_lt short)
  exact free (isHead.1.isInfix.trans inBuf.isInfix)

/-- A content starts with at most one head. -/
theorem IsHead.unique_content {head other : Bytes} {tail otherTail : List Item}
    (isHead : IsHead head) (otherIsHead : IsHead other)
    (same : head.map .byte ++ tail = other.map .byte ++ otherTail) :
    head = other ∧ tail = otherTail := by
  obtain rfl : head = other := by
    rcases bytes_append_cases same with ⟨more, longer, _⟩ | ⟨more, longer, _⟩
    · exact isHead.unique otherIsHead ⟨more, longer.symm⟩ List.prefix_rfl
    · exact isHead.unique otherIsHead List.prefix_rfl ⟨more, longer.symm⟩
  exact ⟨rfl, List.append_cancel_left same⟩

theorem findSubslice_eq_none_iff {needle : Bytes} (nonempty : needle ≠ [])
    (haystack : Bytes) :
    findSubslice haystack needle = none ↔ ¬needle <:+: haystack := by
  fun_induction findSubslice haystack needle with
  | case1 haystack fits found =>
      have isPrefix : needle <+: haystack := List.prefix_iff_eq_take.mpr found.symm
      simp [isPrefix.isInfix]
  | case2 fits found => simp_all
  | case3 head tail fits missed induction =>
      have noStart : ¬needle <+: head :: tail := fun isPrefix =>
        missed (List.prefix_iff_eq_take.mp isPrefix).symm
      simp [List.infix_cons_iff, noStart, induction]
  | case4 haystack short =>
      have absent : ¬needle <:+: haystack := fun occurs => short occurs.length_le
      simp [absent]

/-- What was found is the first occurrence. -/
theorem findSubslice_eq_some {haystack needle : Bytes} {index : Nat}
    (nonempty : needle ≠ [])
    (found : findSubslice haystack needle = some index) :
    index + needle.length ≤ haystack.length ∧
      EndsFirst needle (haystack.take (index + needle.length)) := by
  fun_induction findSubslice haystack needle generalizing index with
  | case1 haystack fits start =>
      obtain rfl : 0 = index := Option.some.inj found
      rw [Nat.zero_add, start]
      exact ⟨fits, EndsFirst.self nonempty⟩
  | case2 => simp at found
  | case3 head tail fits missed induction =>
      obtain ⟨inner, innerFound, rfl⟩ := Option.map_eq_some_iff.mp found
      obtain ⟨innerFits, innerEnds⟩ := induction innerFound
      have noStart : ¬needle <+: head :: tail := fun isPrefix =>
        missed (List.prefix_iff_eq_take.mp isPrefix).symm
      have positive : 0 < needle.length := List.length_pos_iff.mpr nonempty
      refine ⟨by simp; omega, ?_⟩
      rw [Nat.add_right_comm, List.take_succ_cons]
      apply innerEnds.cons
      · intro empty
        have short := congrArg List.length empty
        simp only [List.length_take, List.length_nil] at short
        omega
      · intro starts
        apply noStart
        apply starts.trans
        rw [List.cons_prefix_cons]
        exact ⟨rfl, (List.dropLast_prefix _).trans (List.take_prefix _ _)⟩
  | case4 => simp at found

/-- A text that contains the terminator starts with exactly one head, and the
search finds its end. -/
theorem findSubslice_head {head : Bytes} (isHead : IsHead head) (rest : Bytes) :
    ∃ index, findSubslice (head ++ rest) headerEnd = some index ∧
      index + headerEnd.length = head.length := by
  have occurs : headerEnd <:+: head ++ rest :=
    isHead.1.isInfix.trans (List.prefix_append head rest).isInfix
  cases found : findSubslice (head ++ rest) headerEnd with
  | none => exact ((findSubslice_eq_none_iff headerEnd_ne_nil _).mp found occurs).elim
  | some index =>
      obtain ⟨fits, ends⟩ := findSubslice_eq_some headerEnd_ne_nil found
      have same := isHead.unique ends (List.prefix_append head rest)
        (List.take_prefix _ _)
      refine ⟨index, rfl, ?_⟩
      rw [same, List.length_take]
      omega

section

variable {σ : Type}

theorem readSome_bind [Read σ] {α : Type} (size : Nat)
    (next : Bytes → ReadResult σ α) (stream : σ) :
    (readSome size >>= next) stream =
      match Read.read size stream with
      | (.ok bytes, rest) => next bytes rest
      | (.error error, rest) => (.error (MzaniError.ofIo error), rest) := by
  cases answer : Read.read size stream with
  | mk outcome rest =>
      cases outcome with
      | ok bytes =>
          exact Reading.bind_of_ok (Reading.mapError_of_ok answer)
      | error error =>
          exact Reading.bind_of_error (Reading.mapError_of_error answer)

/-- One pass of the scan. -/
theorem readHeaderLoop_step [Read σ] (maxHeaderBytes : Nat) (buf : Bytes)
    (stream : σ) :
    readHeaderLoop maxHeaderBytes buf stream =
      if maxHeaderBytes < buf.length then
        (.error (parseErr "header block exceeds maximum size"), stream)
      else
        match Read.read 4096 stream with
        | (.error error, rest) => (.error (MzaniError.ofIo error), rest)
        | (.ok chunk, rest) =>
            if chunk = [] then (.error .emptyRequest, rest)
            else
              match findSubslice (buf ++ chunk) headerEnd with
              | some index =>
                  (.ok ((buf ++ chunk).take (index + headerEnd.length),
                    (buf ++ chunk).drop (index + headerEnd.length)), rest)
              | none => readHeaderLoop maxHeaderBytes (buf ++ chunk) rest := by
  rw [readHeaderLoop]
  split
  · rfl
  · rw [readSome_bind]
    cases Read.read 4096 stream with
    | mk outcome rest =>
        cases outcome with
        | error error => rfl
        | ok chunk =>
            by_cases ended : chunk = []
            · simp [ended]
            · simp only [ended, dite_false, if_false]
              cases findSubslice (buf ++ chunk) headerEnd <;> rfl

variable [ByteStream σ]

/-- What a successful scan has read: the head, and what the read that
completed it delivered beyond. -/
theorem readHeaderLoop_ok {maxHeaderBytes : Nat} {buf head bodyPrefix : Bytes}
    {stream rest : σ} (free : ¬headerEnd <:+: buf)
    (result : readHeaderLoop maxHeaderBytes buf stream =
      (.ok (head, bodyPrefix), rest)) :
    ∃ (taken : Bytes) (before : Nat),
      ByteStream.items stream = taken.map .byte ++ ByteStream.items rest ∧
        head ++ bodyPrefix = buf ++ taken ∧ IsHead head ∧
        fetch 4096 (head.length - buf.length) stream = some (before, bodyPrefix.length) ∧
        buf.length + before ≤ maxHeaderBytes ∧ bodyPrefix.length < 4096 := by
  induction buf using readHeaderLoop.induct maxHeaderBytes generalizing stream with
  | case1 buf full =>
      rw [readHeaderLoop_step, if_pos full] at result
      simp at result
  | case2 buf within induction =>
      rw [readHeaderLoop_step, if_neg within] at result
      cases answer : Read.read 4096 stream with
      | mk outcome next =>
          cases outcome with
          | error error => simp [answer] at result
          | ok chunk =>
              have split := items_of_read_ok (by decide) answer
              have chunkShort := Read.length_read_le answer
              by_cases ended : chunk = []
              · simp [answer, ended] at result
              · simp only [answer, if_neg ended] at result
                cases found : findSubslice (buf ++ chunk) headerEnd with
                | none =>
                    simp only [found] at result
                    have grownFree :=
                      (findSubslice_eq_none_iff headerEnd_ne_nil _).mp found
                    obtain ⟨more, before, moreSplit, whole, isHead, fetched, fits, short⟩ :=
                      induction chunk ended grownFree result
                    have pastGrown := length_lt_of_isHead grownFree
                      (whole ▸ List.prefix_append head bodyPrefix) isHead
                    rw [List.length_append] at fetched fits pastGrown
                    refine ⟨chunk ++ more, chunk.length + before, ?_, ?_, isHead, ?_,
                      by omega, short⟩
                    · rw [split, moreSplit]
                      simp
                    · rw [whole, List.append_assoc]
                    · rw [fetch_of_read _ answer ended, if_neg (by omega),
                        Nat.sub_sub, fetched]
                      rfl
                | some index =>
                    simp only [found, Prod.mk.injEq, Except.ok.injEq] at result
                    obtain ⟨⟨rfl, rfl⟩, rfl⟩ := result
                    obtain ⟨fits, isHead⟩ :=
                      findSubslice_eq_some headerEnd_ne_nil found
                    have pastBuf := length_lt_of_isHead free
                      (List.take_prefix _ (buf ++ chunk)) isHead
                    rw [List.length_append] at fits
                    rw [List.length_take, List.length_append] at pastBuf
                    refine ⟨chunk, 0, split, List.take_append_drop _ _, isHead, ?_,
                      by omega, ?_⟩
                    · rw [fetch_of_read _ answer ended]
                      rw [List.length_take, List.length_drop, List.length_append,
                        if_pos (by omega), Nat.min_eq_left fits]
                      congr 2
                      omega
                    · rw [List.length_drop, List.length_append]
                      omega

theorem readHeaderBlock_fetch {maxHeaderBytes : Nat} {head bodyPrefix : Bytes}
    {stream rest : σ}
    (result : readHeaderBlock maxHeaderBytes stream =
      (.ok (head, bodyPrefix), rest)) :
    ∃ before, fetch 4096 head.length stream = some (before, bodyPrefix.length) ∧
      before ≤ maxHeaderBytes := by
  obtain ⟨_, before, _, _, _, fetched, fits, _⟩ :=
    readHeaderLoop_ok (by simp [headerEnd]) result
  exact ⟨before, fetched, by simpa using fits⟩

theorem readHeaderBlock_ok {maxHeaderBytes : Nat} {head bodyPrefix : Bytes}
    {stream rest : σ}
    (result : readHeaderBlock maxHeaderBytes stream =
      (.ok (head, bodyPrefix), rest)) :
    ByteStream.items stream =
        (head ++ bodyPrefix).map .byte ++ ByteStream.items rest ∧
      IsHead head ∧ bodyPrefix.length < 4096 := by
  obtain ⟨taken, _, split, whole, isHead, _, _, short⟩ :=
    readHeaderLoop_ok (by simp [headerEnd]) result
  refine ⟨?_, isHead, short⟩
  rw [whole, split, List.nil_append]

/-- A head is found, in every split of the stream, if the limit covers what
comes before the read that completes it. -/
theorem readHeaderLoop_finds {maxHeaderBytes before past : Nat}
    {head buf more : Bytes} {tail : List Item} {stream : σ} (isHead : IsHead head)
    (whole : buf ++ more = head) (unfinished : more ≠ [])
    (content : ByteStream.items stream = more.map .byte ++ tail)
    (fetched : fetch 4096 more.length stream = some (before, past))
    (fits : buf.length + before ≤ maxHeaderBytes) :
    ∃ bodyPrefix rest,
      readHeaderLoop maxHeaderBytes buf stream =
          (.ok (head, bodyPrefix), rest) ∧
        tail = bodyPrefix.map .byte ++ ByteStream.items rest ∧
        bodyPrefix.length = past := by
  induction buf using readHeaderLoop.induct maxHeaderBytes
    generalizing stream more before with
  | case1 buf full => omega
  | case2 buf within induction =>
      obtain ⟨chunk, rest, answer, nonempty, cut⟩ :=
        read_of_bytes (by decide : 0 < 4096) unfinished content
      rw [fetch_of_read _ answer nonempty] at fetched
      rw [readHeaderLoop_step, if_neg within, answer]
      simp only [if_neg nonempty]
      rcases cut with ⟨left, rfl, restContent⟩ | ⟨extra, rfl, tailContent⟩
      · rw [List.length_append] at fetched
        by_cases finished : left = []
        · -- the read ended exactly with the head
          subst left
          obtain ⟨index, found, length⟩ := findSubslice_head isHead []
          rw [List.append_nil] at whole found
          rw [whole, found]
          refine ⟨[], rest, by simp [length], by simpa using restContent.symm, ?_⟩
          simp only [List.length_nil, Nat.add_zero, Nat.le_refl, if_true,
            Option.some.injEq, Prod.mk.injEq, Nat.sub_self] at fetched
          exact fetched.2
        · have strict : buf ++ chunk ≠ head := by
            intro same
            rw [← List.append_assoc, same] at whole
            exact finished (List.append_right_eq_self.mp whole)
          have isPrefix : buf ++ chunk <+: head :=
            ⟨left, by rw [← whole, List.append_assoc]⟩
          have missed := (findSubslice_eq_none_iff headerEnd_ne_nil _).mpr
            (isHead.free_of_strict_prefix isPrefix strict)
          have leftPositive := List.length_pos_iff.mpr finished
          rw [if_neg (by omega), Nat.add_sub_cancel_left] at fetched
          obtain ⟨⟨later, beyond⟩, restFetched, same⟩ := Option.map_eq_some_iff.mp fetched
          obtain ⟨rfl, rfl⟩ := Prod.mk.inj same
          rw [missed]
          exact induction chunk nonempty
            (by rw [← whole, List.append_assoc]) finished restContent restFetched
            (by rw [List.length_append]; omega)
      · obtain ⟨index, found, length⟩ := findSubslice_head isHead extra
        rw [← List.append_assoc, whole, found]
        refine ⟨extra, rest, by simp [length], tailContent, ?_⟩
        rw [List.length_append, if_pos (by omega), Option.some.injEq, Prod.mk.injEq]
          at fetched
        omega

theorem readHeaderBlock_fetched {maxHeaderBytes before past : Nat} {head : Bytes}
    {tail : List Item} {stream : σ} (isHead : IsHead head)
    (content : ByteStream.items stream = head.map .byte ++ tail)
    (fetched : fetch 4096 head.length stream = some (before, past))
    (fits : before ≤ maxHeaderBytes) :
    ∃ bodyPrefix rest,
      readHeaderBlock maxHeaderBytes stream = (.ok (head, bodyPrefix), rest) ∧
        tail = bodyPrefix.map .byte ++ ByteStream.items rest ∧
        bodyPrefix.length = past :=
  readHeaderLoop_finds isHead (List.nil_append head) isHead.ne_nil content fetched
    (by simpa using fits)

theorem readHeaderBlock_finds {maxHeaderBytes : Nat} {head : Bytes}
    {tail : List Item} {stream : σ} (isHead : IsHead head)
    (fits : head.length ≤ maxHeaderBytes + 1)
    (content : ByteStream.items stream = head.map .byte ++ tail) :
    ∃ bodyPrefix rest,
      readHeaderBlock maxHeaderBytes stream = (.ok (head, bodyPrefix), rest) ∧
        tail = bodyPrefix.map .byte ++ ByteStream.items rest := by
  obtain ⟨before, past, fetched, short⟩ :=
    fetch_of_bytes (by decide : 0 < 4096) isHead.ne_nil content
  have inLimit : before ≤ maxHeaderBytes := by omega
  obtain ⟨bodyPrefix, rest, found, split, _⟩ :=
    readHeaderBlock_fetched isHead content fetched inLimit
  exact ⟨bodyPrefix, rest, found, split⟩

/-- A stream that ends or fails before a head is complete gives an error. -/
theorem readHeaderBlock_unfinished {maxHeaderBytes : Nat} {bytes : Bytes}
    {tail : List Item} {stream : σ} (free : ¬headerEnd <:+: bytes)
    (content : ByteStream.items stream = bytes.map .byte ++ tail)
    (stops : Stops tail) :
    ∃ error, (readHeaderBlock maxHeaderBytes stream).1 = .error error := by
  cases result : readHeaderBlock maxHeaderBytes stream with
  | mk outcome rest =>
      cases outcome with
      | error error => exact ⟨error, rfl⟩
      | ok parts =>
          obtain ⟨head, bodyPrefix⟩ := parts
          obtain ⟨split, isHead, _⟩ := readHeaderBlock_ok result
          rw [content] at split
          rcases bytes_append_cases split with
            ⟨more, whole, tailSplit⟩ | ⟨more, whole, _⟩
          · cases more with
            | nil =>
                rw [List.append_nil] at whole
                exact (free (whole ▸ isHead.1.isInfix.trans
                  (List.prefix_append head bodyPrefix).isInfix)).elim
            | cons value more =>
                exact (stops value (by simp [tailSplit])).elim
          · exact (free (whole ▸ (isHead.1.isInfix.trans
              (List.prefix_append head bodyPrefix).isInfix).trans
              (List.prefix_append _ more).isInfix)).elim

end

end Mzani
