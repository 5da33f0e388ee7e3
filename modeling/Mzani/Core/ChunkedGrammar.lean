import Mzani.Core.ChunkedCoding
import Mzani.Support.Splits

/-!
# The chunked reader and the chunked grammar

What the chunked reader accepts, as a grammar of its own, next to the grammar
of chunked bodies.  The two agree except for sign characters and odd blanks in
size tokens, for extensions that are not text, and for everything that follows
the last chunk, of which the reader takes one line of any kind.
-/

namespace Mzani

open Support

/-! ## Chunks under a rule for size lines -/

/-- A content starts with chunks up to the size line of the last chunk; `rule`
says which lines are size lines of which size.  The payload is what the chunks
carry. -/
inductive StartsChunked (rule : Bytes → Nat → Prop) :
    Bytes → List Item → List Item → Prop where
  | last {line : Bytes} (rest : List Item) :
      IsLine line → rule line 0 →
      StartsChunked rule [] ((line ++ chunkHeaderEnd).map .byte ++ rest) rest
  | chunk {line data payload : Bytes} {content rest : List Item} :
      IsLine line → rule line data.length → data ≠ [] →
      StartsChunked rule payload content rest →
      StartsChunked rule (data ++ payload)
        ((line ++ chunkHeaderEnd).map .byte ++
          (data.map .byte ++ (chunkHeaderEnd.map .byte ++ content))) rest

/-- The content starts with a line that the line limit admits. -/
def StartsWithLine (content : List Item) : Prop :=
  ∃ line rest, IsLine line ∧ line.length ≤ 8191 ∧
    content = (line ++ chunkHeaderEnd).map .byte ++ rest

/-- Trailer lines, each with a colon, up to an empty line. -/
inductive StartsWithTrailers : List Item → Prop where
  | done (rest : List Item) : StartsWithTrailers (chunkHeaderEnd.map .byte ++ rest)
  | field {line : Bytes} {content : List Item} :
      IsLine line → 58 ∈ line → StartsWithTrailers content →
      StartsWithTrailers ((line ++ chunkHeaderEnd).map .byte ++ content)

theorem StartsWithTrailers.first_line {content : List Item}
    (trailers : StartsWithTrailers content) :
    (∃ rest, content = chunkHeaderEnd.map .byte ++ rest) ∨
      ∃ line rest, IsLine line ∧ 58 ∈ line ∧ StartsWithTrailers rest ∧
        content = (line ++ chunkHeaderEnd).map .byte ++ rest := by
  cases trailers with
  | done rest => exact Or.inl ⟨rest, rfl⟩
  | field isLine colon later => exact Or.inr ⟨_, _, isLine, colon, later, rfl⟩

/-- A line is cut off a content in one way only. -/
theorem IsLine.unique_content {line other : Bytes} {tail otherTail : List Item}
    (isLine : IsLine line) (otherIsLine : IsLine other)
    (same : (line ++ chunkHeaderEnd).map .byte ++ tail =
      (other ++ chunkHeaderEnd).map .byte ++ otherTail) :
    line = other ∧ tail = otherTail := by
  have sameLine : line ++ chunkHeaderEnd = other ++ chunkHeaderEnd := by
    rcases bytes_append_cases same with ⟨more, longer, _⟩ | ⟨more, longer, _⟩
    · exact isLine.unique otherIsLine ⟨more, longer.symm⟩ List.prefix_rfl
    · exact isLine.unique otherIsLine List.prefix_rfl ⟨more, longer.symm⟩
  rw [sameLine] at same
  exact ⟨List.append_cancel_right sameLine, List.append_cancel_left same⟩

namespace StartsChunked

variable {rule other : Bytes → Nat → Prop} {payload otherPayload : Bytes}
  {content rest otherRest : List Item}

/-- The first line is the size line of the last chunk or of another one. -/
theorem first_line (starts : StartsChunked rule payload content rest) :
    (∃ line, IsLine line ∧ rule line 0 ∧ payload = [] ∧
        content = (line ++ chunkHeaderEnd).map .byte ++ rest) ∨
      ∃ line data more later, IsLine line ∧ rule line data.length ∧ data ≠ [] ∧
        StartsChunked rule more later rest ∧ payload = data ++ more ∧
        content = (line ++ chunkHeaderEnd).map .byte ++
          (data.map .byte ++ (chunkHeaderEnd.map .byte ++ later)) := by
  cases starts with
  | last rest isLine sized => exact Or.inl ⟨_, isLine, sized, rfl, rfl⟩
  | chunk isLine sized nonempty later =>
      exact Or.inr ⟨_, _, _, _, isLine, sized, nonempty, later, rfl, rfl⟩

/-- Rules that never give one line two sizes cut a content alike. -/
theorem both (starts : StartsChunked rule payload content rest)
    (otherStarts : StartsChunked other otherPayload content otherRest)
    (agree : ∀ line size otherSize, rule line size → other line otherSize →
      size = otherSize) :
    payload = otherPayload ∧ rest = otherRest ∧
      StartsChunked (fun line size => rule line size ∧ other line size) payload
        content rest := by
  induction starts generalizing otherPayload with
  | last rest isLine sized =>
      rcases otherStarts.first_line with
        ⟨otherLine, otherIsLine, otherSized, rfl, whole⟩ |
          ⟨otherLine, data, more, later, otherIsLine, otherSized, nonempty, _, _, whole⟩
      · obtain ⟨rfl, rfl⟩ := isLine.unique_content otherIsLine whole
        exact ⟨rfl, rfl, .last rest isLine ⟨sized, otherSized⟩⟩
      · obtain ⟨rfl, _⟩ := isLine.unique_content otherIsLine whole
        have zero := agree _ _ _ sized otherSized
        exact (nonempty (List.length_eq_zero_iff.mp zero.symm)).elim
  | chunk isLine sized nonempty later induction =>
      rcases otherStarts.first_line with
        ⟨otherLine, otherIsLine, otherSized, _, whole⟩ |
          ⟨otherLine, data, more, otherLater, otherIsLine, otherSized, _, laterStarts, rfl, whole⟩
      · obtain ⟨rfl, _⟩ := isLine.unique_content otherIsLine whole
        have zero := agree _ _ _ sized otherSized
        exact (nonempty (List.length_eq_zero_iff.mp zero)).elim
      · obtain ⟨rfl, tails⟩ := isLine.unique_content otherIsLine whole
        have lengths := agree _ _ _ sized otherSized
        obtain ⟨sameData, sameRest⟩ := List.append_inj tails (by simpa using lengths)
        have byteInjective : Function.Injective Item.byte := by
          intro left right equality
          exact Item.byte.inj equality
        obtain rfl := byteInjective.list_map sameData
        obtain rfl := List.append_cancel_left sameRest
        obtain ⟨rfl, rfl, combined⟩ := induction laterStarts
        exact ⟨rfl, rfl, .chunk isLine ⟨sized, otherSized⟩ nonempty combined⟩

theorem mono (starts : StartsChunked rule payload content rest)
    (weaker : ∀ line size, size ≤ payload.length → rule line size → other line size) :
    StartsChunked other payload content rest := by
  induction starts with
  | last rest isLine sized => exact .last rest isLine (weaker _ _ (Nat.zero_le _) sized)
  | chunk isLine sized nonempty later induction =>
      rw [List.length_append] at weaker
      apply StartsChunked.chunk isLine (weaker _ _ (Nat.le_add_right _ _) sized) nonempty
      apply induction
      intro line size within ruled
      exact weaker line size (Nat.le_add_left_of_le within) ruled

end StartsChunked

/-! ## Size lines -/

/-- A size line of the grammar: a hexadecimal size between blanks and, behind a
semicolon, possibly an extension. -/
def IsSizeLine (line : Bytes) (size : Nat) : Prop :=
  ∃ before digits after extension, line = toUtf8 (before ++ digits ++ after) ++ extension ∧
    (∀ char ∈ before, IsBlank char) ∧ (∀ char ∈ after, IsBlank char) ∧
    digits ≠ [] ∧ AllDigits 16 digits ∧ digitsValue 16 0 digits = size ∧
    ∀ byte ∈ extension.head?, byte = 59

/-- No sign and no white space but blanks before the extension. -/
def PlainToken (line : Bytes) : Prop :=
  ∃ text, fromUtf8 line = some text ∧ ∀ char ∈ firstPiece ';' text,
    char ≠ '+' ∧ (isWhitespace char = true → IsBlank char)

private theorem digit_or_blank {before digits after : Text}
    (beforeBlank : ∀ char ∈ before, IsBlank char)
    (afterBlank : ∀ char ∈ after, IsBlank char) (all : AllDigits 16 digits) :
    ∀ char ∈ before ++ digits ++ after, (toDigit 16 char).isSome ∨ IsBlank char := by
  intro char member
  simp only [List.mem_append] at member
  rcases member with (inBefore | inDigits) | inAfter
  · exact Or.inr (beforeBlank char inBefore)
  · exact Or.inl (all char inDigits)
  · exact Or.inr (afterBlank char inAfter)

/-- On a size line of the grammar the reader finds the same size. -/
theorem ReadsSize.of_isSizeLine {line : Bytes} {size other : Nat}
    (reads : ReadsSize line size) (isSizeLine : IsSizeLine line other) :
    size = other ∧ PlainToken line := by
  obtain ⟨_, text, decoded, parsed⟩ := reads
  obtain ⟨before, digits, after, extension, rfl, beforeBlank, afterBlank, nonempty, all, rfl,
    starts⟩ := isSizeLine
  have plain := digit_or_blank beforeBlank afterBlank all
  have piece := firstPiece_of_line plain starts decoded
  rw [piece, trim_sizeToken beforeBlank afterBlank all,
    fromStrRadix_eq_some_iff (by decide) (by decide) nonempty all] at parsed
  refine ⟨parsed.1.symm, text, decoded, ?_⟩
  intro char member
  rw [piece] at member
  rcases plain char member with digit | blank
  · constructor
    · rintro rfl
      exact absurd digit (by decide)
    · intro white
      rw [isWhitespace_of_toDigit digit] at white
      cases white
  · constructor
    · rintro rfl
      exact absurd blank (by decide)
    · intro _
      exact blank

/-- A line that the reader takes for a size line, without sign and odd blanks,
is one of the grammar. -/
theorem ReadsSize.isSizeLine {line : Bytes} {size : Nat} (reads : ReadsSize line size)
    (plainToken : PlainToken line) : IsSizeLine line size := by
  obtain ⟨_, text, decoded, parsed⟩ := reads
  obtain ⟨_, sameDecoded, plain⟩ := plainToken
  obtain rfl := Option.some.inj (decoded.symm.trans sameDecoded)
  obtain ⟨before, after, split, beforeWhite, afterWhite⟩ := trim_split (firstPiece ';' text)
  have inPiece : ∀ char, char ∈ before ∨ char ∈ trim (firstPiece ';' text) ∨ char ∈ after →
      char ∈ firstPiece ';' text := by
    intro char member
    rw [split]
    simpa [or_assoc] using member
  obtain ⟨digits, form, nonempty, all, value, _⟩ :=
    fromStrRadix_some (by decide) (by decide) parsed
  have token : trim (firstPiece ';' text) = digits := by
    rcases form with same | signed
    · exact same
    · have plus := inPiece '+' (Or.inr (Or.inl (by rw [signed]; exact List.mem_cons_self)))
      exact ((plain '+' plus).1 rfl).elim
  rw [token] at split
  refine ⟨before, digits, after, toUtf8 (text.dropWhile (· ≠ ';')), ?_, ?_, ?_, nonempty, all,
    value, ?_⟩
  · rw [← split, ← toUtf8_append, firstPiece, List.takeWhile_append_dropWhile]
    exact (toUtf8_of_fromUtf8 decoded).symm
  · intro char member
    exact (plain char (inPiece char (Or.inl member))).2 (beforeWhite char member)
  · intro char member
    exact (plain char (inPiece char (Or.inr (Or.inr member)))).2 (afterWhite char member)
  · intro byte first
    cases rest : text.dropWhile (· ≠ ';') with
    | nil =>
        rw [rest] at first
        simp at first
    | cons char more =>
        have stopped := List.head?_dropWhile_not (· ≠ ';') text
        rw [rest] at stopped first
        obtain rfl : char = ';' := by simpa using stopped
        have wire : toUtf8 (';' :: more) = 59 :: toUtf8 more :=
          toUtf8_ascii_cons (by decide) more
        rw [wire] at first
        exact (Option.some.inj first).symm

/-- A size line of the grammar is taken if it is text and its size a `usize`. -/
theorem IsSizeLine.readsSize {line : Bytes} {size : Nat} (isSizeLine : IsSizeLine line size)
    (short : line.length ≤ 8191) (isText : (fromUtf8 line).isSome)
    (small : size < usizeLimit) : ReadsSize line size := by
  obtain ⟨text, decoded⟩ := Option.isSome_iff_exists.mp isText
  obtain ⟨before, digits, after, extension, rfl, beforeBlank, afterBlank, nonempty, all, rfl,
    starts⟩ := isSizeLine
  have plain := digit_or_blank beforeBlank afterBlank all
  refine ⟨short, text, decoded, ?_⟩
  rw [firstPiece_of_line plain starts decoded, trim_sizeToken beforeBlank afterBlank all]
  exact fromStrRadix_digits (by decide) nonempty all small

/-! ## What the reader accepts -/

theorem readFull_sound {need : Nat} {content rest : List Item}
    {bytes : { bytes : Bytes // bytes.length = need }}
    (answer : (readFull need : ReadResult (List Item) _) content = (.ok bytes, rest)) :
    uninterrupted content = bytes.val.map .byte ++ uninterrupted rest := by
  have read := readExact_of_readFull answer
  rw [readExact_content] at read
  exact takeExact_ok read

/-- A line that was read stood in front, and the line limit admits it. -/
theorem readLineLoop_sound {line result : Bytes} {content rest : List Item}
    (free : ¬chunkHeaderEnd <:+: line) (short : line.length ≤ 8192)
    (answer : (readLineLoop line : ReadResult (List Item) Bytes) content =
      (.ok result, rest)) :
    ∃ taken : Bytes, line ++ taken = result ++ chunkHeaderEnd ∧ IsLine result ∧
      result.length ≤ 8191 ∧
      uninterrupted content = taken.map .byte ++ uninterrupted rest := by
  induction line using readLineLoop.induct generalizing content with
  | case1 line induction =>
      rw [readLineLoop] at answer
      obtain ⟨byte, next, filled, afterByte⟩ := Reading.bind_eq_ok_iff.mp answer
      have front := readFull_sound filled
      have one : byte.val.length = 1 := byte.property
      obtain ⟨value, single⟩ := List.length_eq_one_iff.mp one
      by_cases ended : chunkHeaderEnd.isSuffixOf (line ++ byte.val)
      · rw [if_pos ended] at afterByte
        obtain ⟨⟨rfl⟩, rfl⟩ := Prod.mk.inj afterByte
        have suffix := List.isSuffixOf_iff_suffix.mp ended
        have grownLength : (line ++ byte.val).length = line.length + 1 := by
          rw [List.length_append, one]
        have two : chunkHeaderEnd.length = 2 := rfl
        have whole : (line ++ byte.val).take ((line ++ byte.val).length - 2) ++
            chunkHeaderEnd = line ++ byte.val := by
          obtain ⟨before, split⟩ := suffix
          have length := congrArg List.length split
          rw [List.length_append, two] at length
          rw [← split, List.take_append_of_le_length (by simp; omega),
            List.take_of_length_le (by simp; omega)]
        refine ⟨byte.val, whole.symm, ?_, ?_, front⟩
        · constructor
          · rw [whole]
            exact suffix
          · rw [whole, single, List.dropLast_concat]
            exact free
        · rw [List.length_take, grownLength]
          omega
      · rw [if_neg ended] at afterByte
        by_cases long : 8 * 1024 < (line ++ byte.val).length
        · rw [dif_pos long] at afterByte
          cases afterByte
        · rw [dif_neg long] at afterByte
          have grownFree : ¬chunkHeaderEnd <:+: line ++ byte.val := by
            intro occurs
            rw [single, List.infix_concat_iff, ← single] at occurs
            rcases occurs with suffix | inside
            · exact ended (List.isSuffixOf_iff_suffix.mpr suffix)
            · exact free inside
          obtain ⟨taken, whole, isLine, fits, later⟩ :=
            induction byte long grownFree (by omega) afterByte
          refine ⟨byte.val ++ taken, ?_, isLine, fits, ?_⟩
          · rw [← List.append_assoc, whole]
          · rw [front, later, List.map_append, List.append_assoc]

theorem readLine_sound {result : Bytes} {content rest : List Item}
    (answer : (readLine : ReadResult (List Item) Bytes) content = (.ok result, rest)) :
    IsLine result ∧ result.length ≤ 8191 ∧
      uninterrupted content =
        (result ++ chunkHeaderEnd).map .byte ++ uninterrupted rest := by
  obtain ⟨taken, whole, isLine, fits, front⟩ :=
    readLineLoop_sound (by simp [chunkHeaderEnd]) (Nat.zero_le _) answer
  rw [List.nil_append] at whole
  rw [whole] at front
  exact ⟨isLine, fits, front⟩

theorem readExactDelimiter_sound {delimiter : Bytes} {content rest : List Item}
    (answer : (readExactDelimiter delimiter : ReadResult (List Item) Unit) content =
      (.ok (), rest)) :
    uninterrupted content = delimiter.map .byte ++ uninterrupted rest := by
  obtain ⟨buf, next, filled, compared⟩ := Reading.bind_eq_ok_iff.mp answer
  have front := readFull_sound filled
  by_cases same : buf.val = delimiter
  · simp only [same, ne_eq, not_true_eq_false, if_false] at compared
    obtain ⟨_, rfl⟩ := Prod.mk.inj compared
    rw [front, same]
  · simp [same] at compared

/-- A body that was read is carried by chunks in front, and a line follows
them. -/
theorem readChunkedLoop_sound {maxBytes : Nat} {body result : Bytes}
    {content rest : List Item}
    (answer : readChunkedLoop maxBytes body content = (.ok result, rest)) :
    ∃ payload after, result = body ++ payload ∧
      StartsChunked ReadsSize payload (uninterrupted content) after ∧
      StartsWithLine after := by
  induction body using readChunkedLoop.induct maxBytes generalizing content with
  | case1 body induction =>
      rw [readChunkedLoop] at answer
      obtain ⟨line, afterLine, read, sized⟩ := Reading.bind_eq_ok_iff.mp answer
      obtain ⟨isLine, short, front⟩ := readLine_sound read
      cases decoded : fromUtf8 line with
      | none => simp [decoded] at sized
      | some text =>
          simp only [decoded] at sized
          cases parsed : fromStrRadix usizeLimit 16 (trim (firstPiece ';' text)) with
          | none => simp [parsed] at sized
          | some size =>
              have reads : ReadsSize line size := ⟨short, text, decoded, parsed⟩
              simp only [parsed] at sized
              by_cases last : size = 0
              · subst last
                rw [dif_pos rfl] at sized
                obtain ⟨trailer, final, trailerRead, done⟩ := Reading.bind_eq_ok_iff.mp sized
                obtain ⟨trailerIsLine, trailerShort, trailerFront⟩ :=
                  readLine_sound trailerRead
                obtain ⟨⟨rfl⟩, _⟩ := Prod.mk.inj done
                refine ⟨[], uninterrupted afterLine, (List.append_nil _).symm, ?_, ?_⟩
                · rw [front]
                  exact .last _ isLine reads
                · exact ⟨trailer, _, trailerIsLine, trailerShort, trailerFront⟩
              · rw [dif_neg last] at sized
                by_cases full : maxBytes < body.length + size
                · simp [full] at sized
                · rw [dif_neg full] at sized
                  obtain ⟨chunk, afterChunk, filled, delimited⟩ :=
                    Reading.bind_eq_ok_iff.mp sized
                  obtain ⟨_, afterEnd, ended, again⟩ := Reading.bind_eq_ok_iff.mp delimited
                  have chunkFront := readFull_sound filled
                  have endFront := readExactDelimiter_sound ended
                  obtain ⟨payload, after, rfl, starts, follows⟩ :=
                    induction size last full chunk again
                  refine ⟨chunk.val ++ payload, after, List.append_assoc _ _ _, ?_, follows⟩
                  rw [front, chunkFront, endFront]
                  have nonempty : chunk.val ≠ [] := by
                    intro empty
                    have length := chunk.property
                    rw [empty] at length
                    exact last length.symm
                  exact .chunk isLine (by rwa [chunk.property]) nonempty starts

/-- Chunks and a line after them are read, whatever comes then. -/
theorem readChunkedLoop_complete {maxBytes : Nat} {body payload : Bytes}
    {content after : List Item} (starts : StartsChunked ReadsSize payload content after)
    (follows : StartsWithLine after) (fits : body.length + payload.length ≤ maxBytes) :
    (readChunkedLoop maxBytes body content).1 = .ok (body ++ payload) := by
  induction starts generalizing body with
  | last after isLine reads =>
      obtain ⟨line, rest, lineIsLine, short, rfl⟩ := follows
      rw [readChunkedLoop_end isLine reads,
        Reading.bind_of_ok (readLine_line lineIsLine short rest), List.append_nil]
      rfl
  | chunk isLine reads nonempty later induction =>
      rw [List.length_append] at fits
      rw [readChunkedLoop_data isLine reads nonempty (by omega), ← List.append_assoc]
      apply induction follows
      rw [List.length_append]
      omega

/-- Exactly what the chunked reader accepts, on every split of a content. -/
theorem readChunkedBody_eq_ok_iff {σ : Type} [ByteStream σ] {maxBytes : Nat}
    {payload : Bytes} (stream : σ) :
    (readChunkedBody maxBytes stream).1 = .ok payload ↔
      payload.length ≤ maxBytes ∧
        ∃ after,
          StartsChunked ReadsSize payload (uninterrupted (ByteStream.items stream)) after ∧
            StartsWithLine after := by
  have settled := carried_readChunkedLoop (fun need =>
    Carried.mapError (Carried.readBuffer (carried_uninterrupted need)) MzaniError.ofIo)
    maxBytes [] (ByteStream.items stream)
  rw [readChunkedBody_content rfl]
  constructor
  · intro accepted
    have answer : readChunkedLoop maxBytes [] (ByteStream.items stream) = (.ok payload, _) :=
      Prod.ext accepted rfl
    obtain ⟨sent, after, rfl, starts, follows⟩ := readChunkedLoop_sound answer
    have ofLoop : (readBody .chunked maxBytes (ByteStream.items stream)).1 = .ok payload :=
      accepted
    exact ⟨(held_of_readBody ofLoop).2, after, starts, follows⟩
  · rintro ⟨within, after, starts, follows⟩
    have fits : ([] : Bytes).length + payload.length ≤ maxBytes := by simpa using within
    have accepted := readChunkedLoop_complete starts follows fits
    rw [settled] at accepted
    exact accepted

/-! ## Where reader and grammar agree -/

/-- A size line of the grammar that the line limit admits. -/
def GrammarSize (line : Bytes) (size : Nat) : Prop :=
  line.length ≤ 8191 ∧ IsSizeLine line size

/-- The content starts with a chunked body of the grammar, trailers included,
that carries this payload; interrupted reads are skipped. -/
def IsChunkedBody (maxBytes : Nat) (content : List Item) (payload : Bytes) : Prop :=
  payload.length ≤ maxBytes ∧ ∃ after,
    StartsChunked GrammarSize payload (uninterrupted content) after ∧
      StartsWithTrailers after

/-- On every split of the content, the reader accepts chunked bodies of the
grammar and nothing else. -/
def FollowsGrammar (maxBytes : Nat) (content : List Item) : Prop :=
  ∀ (σ : Type) [ByteStream σ] (stream : σ), ByteStream.items stream = content →
    ∀ body, (readChunkedBody maxBytes stream).1 = .ok body ↔
      IsChunkedBody maxBytes content body

/-- Nothing on the content that reader and grammar take differently. -/
structure PlainlyChunked (maxBytes : Nat) (content : List Item) : Prop where
  /-- Where chunks and one more line stand in front, no size token has a sign or
  odd blanks, and trailers up to an empty line follow. -/
  lenient : ∀ payload after, payload.length ≤ maxBytes →
    StartsChunked ReadsSize payload (uninterrupted content) after →
      StartsWithLine after →
        StartsChunked (fun line size => ReadsSize line size ∧ PlainToken line) payload
            (uninterrupted content) after ∧
          StartsWithTrailers after
  /-- Where a chunked body of the grammar stands in front, its size lines are
  text, and the first line after its chunks keeps to the line limit. -/
  strict : ∀ payload after, payload.length ≤ maxBytes →
    StartsChunked GrammarSize payload (uninterrupted content) after →
      StartsWithTrailers after →
        StartsChunked (fun line size => GrammarSize line size ∧ (fromUtf8 line).isSome)
            payload (uninterrupted content) after ∧
          StartsWithLine after

theorem followsGrammar_iff (maxBytes : Usize) (content : List Item) :
    FollowsGrammar maxBytes content ↔ PlainlyChunked maxBytes content := by
  constructor
  · intro follows
    have onContent := follows (List Item) content rfl
    constructor
    · intro payload after within starts line
      have accepted := (readChunkedBody_eq_ok_iff content).mpr ⟨within, after, starts, line⟩
      obtain ⟨_, grammarAfter, grammarStarts, trailers⟩ := (onContent payload).mp accepted
      obtain ⟨_, rfl, combined⟩ := starts.both grammarStarts fun _ _ _ reads sized =>
        (reads.of_isSizeLine sized.2).1
      refine ⟨combined.mono ?_, trailers⟩
      intro sizeLine size _ sized
      exact ⟨sized.1, (sized.1.of_isSizeLine sized.2.2).2⟩
    · intro payload after within starts trailers
      have accepted := (onContent payload).mpr ⟨within, after, starts, trailers⟩
      obtain ⟨_, readAfter, readStarts, line⟩ := (readChunkedBody_eq_ok_iff content).mp accepted
      obtain ⟨_, rfl, combined⟩ := starts.both readStarts fun _ _ _ sized reads =>
        (reads.of_isSizeLine sized.2).1.symm
      refine ⟨combined.mono ?_, line⟩
      rintro sizeLine size _ ⟨sized, _, text, decoded, _⟩
      exact ⟨sized, Option.isSome_of_eq_some decoded⟩
  · intro plainly σ _ stream items body
    subst items
    rw [readChunkedBody_eq_ok_iff]
    constructor
    · rintro ⟨within, after, starts, line⟩
      obtain ⟨plain, trailers⟩ := plainly.lenient body after within starts line
      refine ⟨within, after, plain.mono ?_, trailers⟩
      intro sizeLine size _ sized
      exact ⟨sized.1.1, sized.1.isSizeLine sized.2⟩
    · rintro ⟨within, after, starts, trailers⟩
      obtain ⟨readable, line⟩ := plainly.strict body after within starts trailers
      refine ⟨within, after, readable.mono ?_, line⟩
      intro sizeLine size small sized
      have fits : size < usizeLimit := by
        have bound := maxBytes.isLt
        omega
      exact sized.1.2.readsSize sized.1.1 sized.2 fits

/-- A body of one chunk, followed by a line that is no trailer. -/
def untrailed : List Item :=
  (toUtf8 "5\r\nhello\r\n0\r\nno trailer\r\n".toList).map .byte

theorem untrailed_accepted :
    (readChunkedBody 100 untrailed).1 = .ok (toUtf8 "hello".toList) ∧
      ¬IsChunkedBody 100 untrailed (toUtf8 "hello".toList) ∧
      ¬FollowsGrammar 100 untrailed := by
  have accepted : (readChunkedBody 100 untrailed).1 = .ok (toUtf8 "hello".toList) := by
    decide +kernel
  have refused : ¬IsChunkedBody 100 untrailed (toUtf8 "hello".toList) := by
    rintro ⟨_, after, starts, trailers⟩
    let rest : List Item := (toUtf8 "no trailer".toList ++ chunkHeaderEnd).map .byte ++ []
    have lastIsLine : IsLine (toUtf8 "0".toList) := ⟨by decide, by decide⟩
    have sizeIsLine : IsLine (toUtf8 "5".toList) := ⟨by decide, by decide⟩
    have read : StartsChunked ReadsSize (toUtf8 "hello".toList ++ []) untrailed rest := by
      refine .chunk sizeIsLine ⟨by decide, "5".toList, by decide, by decide⟩ (by decide)
        (.last rest lastIsLine ⟨by decide, "0".toList, by decide, by decide⟩)
    obtain ⟨_, rfl, _⟩ := read.both starts fun _ _ _ reads sized =>
      (reads.of_isSizeLine sized.2).1
    have trailerIsLine : IsLine (toUtf8 "no trailer".toList) := ⟨by decide, by decide⟩
    rcases trailers.first_line with ⟨more, whole⟩ | ⟨line, more, isLine, colon, _, whole⟩
    · have emptyIsLine : IsLine [] := EndsFirst.self (by decide)
      obtain ⟨same, _⟩ := trailerIsLine.unique_content emptyIsLine whole
      exact absurd same (by decide)
    · obtain ⟨rfl, _⟩ := trailerIsLine.unique_content isLine whole
      exact absurd colon (by decide)
  refine ⟨accepted, refused, ?_⟩
  intro follows
  exact refused ((follows (List Item) untrailed rfl _).mp accepted)

end Mzani
