import Mzani.Support.Utf8

/-!
# Byte streams

A reader answers each read with some of the bytes it still has, with an error,
or with nothing at its end; how many bytes one read returns is the reader's
choice.  What a reader will deliver in total is a list of items, and a
computation over a reader refines a computation over items when the choices
of the reader do not show in its result.
-/

namespace Support

/-- `io::ErrorKind`, as far as readers and their callers tell kinds apart. -/
inductive ErrorKind where
  | interrupted
  | timedOut
  | unexpectedEof
  | connectionRefused
  | other
  deriving DecidableEq, Repr

/-- `io::Error`: its kind and its `Display` text. -/
structure IoError where
  kind : ErrorKind
  message : String
  deriving DecidableEq, Repr

/-- `io::Read`.  `interrupts` bounds the interrupted reads still to come, so
that retrying after an interrupted read ends. -/
class Read (σ : Type) where
  read : Nat → σ → Except IoError Bytes × σ
  interrupts : σ → Nat
  length_read_le : ∀ {size stream bytes next},
    read size stream = (.ok bytes, next) → bytes.length ≤ size
  interrupts_read_le : ∀ size stream,
    interrupts (read size stream).2 ≤ interrupts stream
  interrupts_read_lt : ∀ {size stream error next},
    read size stream = (.error error, next) → error.kind = .interrupted →
      interrupts next < interrupts stream

/-- What a stream has still to deliver, one byte or one failed read each. -/
inductive Item where
  | byte (value : UInt8)
  | fail (error : IoError)
  deriving DecidableEq, Repr

/-- A reader over a fixed finite content: every read of at least one byte
returns the first items of the content, as many as the reader likes but at
least one, until the content is used up. -/
class ByteStream (σ : Type) extends Read σ where
  items : σ → List Item
  items_read : ∀ {size} stream, 0 < size →
    match read size stream with
    | (.ok bytes, next) =>
        (bytes = [] → items stream = []) ∧
          items stream = bytes.map .byte ++ items next
    | (.error error, next) => items stream = .fail error :: items next

section

variable {σ : Type} [ByteStream σ] {size : Nat} {stream next : σ}

theorem items_of_read_ok {bytes : Bytes} (positive : 0 < size)
    (answer : Read.read size stream = (.ok bytes, next)) :
    ByteStream.items stream = bytes.map .byte ++ ByteStream.items next := by
  have law := ByteStream.items_read stream positive
  rw [answer] at law
  exact law.2

theorem items_of_read_nothing (positive : 0 < size)
    (answer : Read.read size stream = (.ok [], next)) :
    ByteStream.items stream = [] ∧ ByteStream.items next = [] := by
  have law := ByteStream.items_read stream positive
  rw [answer] at law
  have atEnd : ByteStream.items stream = [] := law.1 rfl
  have sameRest : ByteStream.items stream = ByteStream.items next := law.2
  exact ⟨atEnd, by rw [← sameRest, atEnd]⟩

theorem items_of_read_error {error : IoError} (positive : 0 < size)
    (answer : Read.read size stream = (.error error, next)) :
    ByteStream.items stream = .fail error :: ByteStream.items next := by
  have law := ByteStream.items_read stream positive
  rwa [answer] at law

/-- Two ways to cut one content after a run of bytes. -/
theorem bytes_append_cases {left right : Bytes} {leftRest rightRest : List Item}
    (same : left.map .byte ++ leftRest = right.map .byte ++ rightRest) :
    (∃ more, right = left ++ more ∧ leftRest = more.map .byte ++ rightRest) ∨
      ∃ more, left = right ++ more ∧ rightRest = more.map .byte ++ leftRest := by
  have byteInjective : Function.Injective Item.byte := fun _ _ equality =>
    Item.byte.inj equality
  rcases List.append_eq_append_iff.mp same with
    ⟨middle, rightSplit, leftSplit⟩ | ⟨middle, leftSplit, rightSplit⟩
  · obtain ⟨first, more, rfl, firstMap, rfl⟩ := List.map_eq_append_iff.mp rightSplit
    obtain rfl := byteInjective.list_map firstMap
    exact Or.inl ⟨more, rfl, leftSplit⟩
  · obtain ⟨first, more, rfl, firstMap, rfl⟩ := List.map_eq_append_iff.mp leftSplit
    obtain rfl := byteInjective.list_map firstMap
    exact Or.inr ⟨more, rfl, rightSplit⟩

/-- Reading where bytes are left: some of them come, and possibly some of
what follows. -/
theorem read_of_bytes {bytes : Bytes} {tail : List Item} (positive : 0 < size)
    (nonempty : bytes ≠ [])
    (content : ByteStream.items stream = bytes.map .byte ++ tail) :
    ∃ chunk rest, Read.read size stream = (.ok chunk, rest) ∧ chunk ≠ [] ∧
      ((∃ more, bytes = chunk ++ more ∧
          ByteStream.items rest = more.map .byte ++ tail) ∨
        ∃ extra, chunk = bytes ++ extra ∧
          tail = extra.map .byte ++ ByteStream.items rest) := by
  obtain ⟨first, others, rfl⟩ := List.exists_cons_of_ne_nil nonempty
  cases answer : Read.read size stream with
  | mk outcome rest =>
      cases outcome with
      | error error =>
          rw [items_of_read_error positive answer] at content
          simp at content
      | ok chunk =>
          refine ⟨chunk, rest, rfl, ?_, ?_⟩
          · rintro rfl
            rw [(items_of_read_nothing positive answer).1] at content
            simp at content
          · rw [items_of_read_ok positive answer] at content
            exact bytes_append_cases content

/-- The reads of at most `size` bytes that deliver the first `need` bytes: how
many bytes come before the last of them, and how many it delivers beyond. -/
def fetch {σ : Type} [Read σ] (size need : Nat) (stream : σ) : Option (Nat × Nat) :=
  match Read.read size stream with
  | (.error _, _) => none
  | (.ok chunk, next) =>
      if _ended : chunk = [] then none
      else if need ≤ chunk.length then some (0, chunk.length - need)
      else
        (fetch size (need - chunk.length) next).map fun (before, past) =>
          (chunk.length + before, past)
termination_by need
decreasing_by
  have positive : 0 < chunk.length := List.length_pos_iff.mpr _ended
  omega

theorem fetch_of_read {chunk : Bytes} (need : Nat)
    (answer : Read.read size stream = (.ok chunk, next)) (nonempty : chunk ≠ []) :
    fetch size need stream =
      if need ≤ chunk.length then some (0, chunk.length - need)
      else
        (fetch size (need - chunk.length) next).map fun (before, past) =>
          (chunk.length + before, past) := by
  rw [fetch, answer]
  simp only [dif_neg nonempty]

/-- Bytes that are there are fetched. -/
theorem fetch_of_bytes {bytes : Bytes} {tail : List Item} (positive : 0 < size)
    (nonempty : bytes ≠ [])
    (content : ByteStream.items stream = bytes.map .byte ++ tail) :
    ∃ before past, fetch size bytes.length stream = some (before, past) ∧
      before < bytes.length := by
  induction need : bytes.length using Nat.strong_induction_on
    generalizing bytes stream with
  | _ need induction =>
      subst need
      have bytesPositive := List.length_pos_iff.mpr nonempty
      obtain ⟨chunk, rest, answer, chunkNonempty, cut⟩ :=
        read_of_bytes positive nonempty content
      have chunkPositive := List.length_pos_iff.mpr chunkNonempty
      rw [fetch_of_read _ answer chunkNonempty]
      rcases cut with ⟨left, rfl, restContent⟩ | ⟨extra, rfl, _⟩
      · rw [List.length_append] at induction ⊢
        by_cases finished : left = []
        · subst finished
          exact ⟨0, 0, by simp, by simp; omega⟩
        · have leftPositive := List.length_pos_iff.mpr finished
          obtain ⟨before, past, fetched, short⟩ :=
            induction left.length (by omega) finished restContent rfl
          refine ⟨chunk.length + before, past, ?_, by omega⟩
          rw [if_neg (by omega), Nat.add_sub_cancel_left, fetched]
          rfl
      · exact ⟨0, extra.length, by simp, bytesPositive⟩

/-- A content that delivers no byte now: it is over, or the next read fails. -/
def Stops (content : List Item) : Prop :=
  ∀ value, content.head? ≠ some (.byte value)

theorem read_of_stops (positive : 0 < size)
    (stops : Stops (ByteStream.items stream)) :
    (∃ rest, Read.read size stream = (.ok [], rest)) ∨
      ∃ error rest, Read.read size stream = (.error error, rest) ∧
        ByteStream.items stream = .fail error :: ByteStream.items rest := by
  cases answer : Read.read size stream with
  | mk outcome rest =>
      cases outcome with
      | error error =>
          exact Or.inr ⟨error, rest, rfl, items_of_read_error positive answer⟩
      | ok chunk =>
          cases chunk with
          | nil => exact Or.inl ⟨rest, rfl⟩
          | cons value chunk =>
              have content := items_of_read_ok positive answer
              exact (stops value (by simp [content])).elim

end

/-! ## Computations that read -/

/-- A computation that reads from a stream, fails or returns a value, and
leaves the rest of the stream behind in both cases. -/
def Reading (ε σ α : Type) : Type := σ → Except ε α × σ

namespace Reading

variable {ε ε' σ α β : Type}

instance : Monad (Reading ε σ) where
  pure value := fun stream => (.ok value, stream)
  bind first next := fun stream =>
    match first stream with
    | (.ok value, rest) => next value rest
    | (.error error, rest) => (.error error, rest)

/-- Stop with an error. -/
def fail (error : ε) : Reading ε σ α := fun stream => (.error error, stream)

/-- A result that needs no reading. -/
def ofExcept (result : Except ε α) : Reading ε σ α :=
  fun stream => (result, stream)

/-- Convert the errors of a computation. -/
def mapError (convert : ε → ε') (action : Reading ε σ α) :
    Reading ε' σ α := fun stream =>
  match action stream with
  | (.ok value, rest) => (.ok value, rest)
  | (.error error, rest) => (.error (convert error), rest)

@[simp] theorem pure_apply (value : α) (stream : σ) :
    (pure value : Reading ε σ α) stream = (.ok value, stream) := rfl

@[simp] theorem fail_apply (error : ε) (stream : σ) :
    (fail error : Reading ε σ α) stream = (.error error, stream) := rfl

@[simp] theorem ofExcept_apply (result : Except ε α) (stream : σ) :
    (ofExcept result : Reading ε σ α) stream = (result, stream) := rfl

theorem ofExcept_ok_bind (value : α) (next : α → Reading ε σ β) :
    (ofExcept (.ok value) >>= next) = next value := rfl

theorem bind_of_ok {first : Reading ε σ α} {next : α → Reading ε σ β}
    {stream rest : σ} {value : α} (result : first stream = (.ok value, rest)) :
    (first >>= next) stream = next value rest := by
  change (match first stream with
    | (.ok value, rest) => next value rest
    | (.error error, rest) => (.error error, rest)) = _
  rw [result]

theorem bind_of_error {first : Reading ε σ α} {next : α → Reading ε σ β}
    {stream rest : σ} {error : ε}
    (result : first stream = (.error error, rest)) :
    (first >>= next) stream = (.error error, rest) := by
  change (match first stream with
    | (.ok value, rest) => next value rest
    | (.error error, rest) => (.error error, rest)) = _
  rw [result]

/-- A sequence succeeds exactly if both of its parts do. -/
theorem bind_eq_ok_iff {first : Reading ε σ α} {next : α → Reading ε σ β}
    {stream last : σ} {result : β} :
    (first >>= next) stream = (.ok result, last) ↔
      ∃ value rest, first stream = (.ok value, rest) ∧
        next value rest = (.ok result, last) := by
  cases answer : first stream with
  | mk outcome rest =>
      cases outcome with
      | ok value => simp [bind_of_ok answer]
      | error error => simp [bind_of_error answer]

theorem mapError_of_ok {convert : ε → ε'} {action : Reading ε σ α}
    {stream rest : σ} {value : α} (result : action stream = (.ok value, rest)) :
    mapError convert action stream = (.ok value, rest) := by
  simp [mapError, result]

theorem mapError_of_error {convert : ε → ε'} {action : Reading ε σ α}
    {stream rest : σ} {error : ε}
    (result : action stream = (.error error, rest)) :
    mapError convert action stream = (.error (convert error), rest) := by
  simp [mapError, result]

theorem mapError_eq_ok_iff {convert : ε → ε'} {action : Reading ε σ α}
    {stream rest : σ} {value : α} :
    mapError convert action stream = (.ok value, rest) ↔
      action stream = (.ok value, rest) := by
  cases answer : action stream with
  | mk outcome rest =>
      cases outcome with
      | ok value => simp [mapError, answer]
      | error error => simp [mapError, answer]

end Reading

/-! ## Reading a given number of bytes -/

/-- The error of `read_exact` at the end of the stream. -/
def readExactEof : IoError :=
  { kind := .unexpectedEof, message := "failed to fill whole buffer" }

/-- `Read::read_exact`, retrying interrupted reads. -/
def readExact {σ : Type} [Read σ] (need : Nat) (stream : σ) :
    Except IoError Bytes × σ :=
  if need = 0 then (.ok [], stream)
  else
    match _answer : Read.read need stream with
    | (.ok bytes, next) =>
        if bytes = [] then (.error readExactEof, next)
        else
          match readExact (need - bytes.length) next with
          | (.ok rest, last) => (.ok (bytes ++ rest), last)
          | (.error error, last) => (.error error, last)
    | (.error error, next) =>
        if error.kind = .interrupted then readExact need next
        else (.error error, next)
termination_by Read.interrupts stream + need
decreasing_by
  · have fewer := Read.interrupts_read_le need stream
    rw [_answer] at fewer
    have positive : 0 < bytes.length := List.length_pos_iff.mpr ‹_›
    change Read.interrupts next ≤ Read.interrupts stream at fewer
    omega
  · have fewer := Read.interrupts_read_lt _answer ‹_›
    omega

theorem length_readExact {σ : Type} [Read σ] {need : Nat} {stream last : σ}
    {bytes : Bytes} (result : readExact need stream = (.ok bytes, last)) :
    bytes.length = need := by
  fun_induction readExact need stream generalizing bytes last with
  | case1 => simp_all
  | case2 => simp at result
  | case3 need stream _ first next answer _ rest _ tail induction =>
      have short := Read.length_read_le answer
      have restLength := induction tail
      simp only [Prod.mk.injEq, Except.ok.injEq] at result
      rw [← result.1, List.length_append, restLength]
      omega
  | case4 => simp at result
  | case5 need stream _ error next answer _ induction => exact induction result
  | case6 => simp at result

/-- A buffer of `need` bytes filled by `read_exact`. -/
def readBuffer {σ : Type} [Read σ] (need : Nat) :
    Reading IoError σ { bytes : Bytes // bytes.length = need } := fun stream =>
  match result : readExact need stream with
  | (.ok bytes, last) => (.ok ⟨bytes, length_readExact result⟩, last)
  | (.error error, last) => (.error error, last)

theorem readBuffer_of_ok {σ : Type} [Read σ] {need : Nat} {stream last : σ}
    {bytes : Bytes} (result : readExact need stream = (.ok bytes, last)) :
    readBuffer need stream =
      (.ok ⟨bytes, length_readExact result⟩, last) := by
  unfold readBuffer
  grind

theorem readBuffer_of_error {σ : Type} [Read σ] {need : Nat} {stream last : σ}
    {error : IoError} (result : readExact need stream = (.error error, last)) :
    readBuffer need stream = (.error error, last) := by
  unfold readBuffer
  grind

/-- Exactly `need` bytes of a content, interrupted reads skipped. -/
def takeExact : Nat → List Item → Except IoError Bytes × List Item
  | 0, content => (.ok [], content)
  | _ + 1, [] => (.error readExactEof, [])
  | need + 1, .byte value :: rest =>
      match takeExact need rest with
      | (.ok bytes, last) => (.ok (value :: bytes), last)
      | (.error error, last) => (.error error, last)
  | need + 1, .fail error :: rest =>
      if error.kind = .interrupted then takeExact (need + 1) rest
      else (.error error, rest)

/-- The content after a run of bytes was taken. -/
theorem takeExact_append (taken need : Nat) (bytes : Bytes)
    (length : bytes.length = taken) (rest : List Item) :
    takeExact (taken + need) (bytes.map .byte ++ rest) =
      match takeExact need rest with
      | (.ok more, last) => (.ok (bytes ++ more), last)
      | (.error error, last) => (.error error, last) := by
  induction bytes generalizing taken with
  | nil =>
      subst length
      cases result : takeExact need rest with
      | mk outcome last => cases outcome <;> simp [result]
  | cons value bytes induction =>
      cases taken with
      | zero => simp at length
      | succ taken =>
          have tail := induction taken (by simpa using length)
          rw [Nat.add_right_comm, List.map_cons, List.cons_append, takeExact,
            tail]
          cases result : takeExact need rest with
          | mk outcome last => cases outcome <;> rfl

/-- Bytes that are there are taken. -/
theorem takeExact_bytes {need : Nat} {bytes : Bytes}
    (length : bytes.length = need) (rest : List Item) :
    takeExact need (bytes.map .byte ++ rest) = (.ok bytes, rest) := by
  have taken := takeExact_append need 0 bytes length rest
  simpa [takeExact] using taken

/-- A computation over one kind of stream carried along a map to another: it
gives the same answer there, and leaves the image of the same rest behind. -/
def Carried {ε σ τ α : Type} (map : σ → τ) (action : Reading ε σ α)
    (image : Reading ε τ α) : Prop :=
  ∀ stream, image (map stream) = ((action stream).1, map (action stream).2)

namespace Carried

variable {ε ε' σ τ α β : Type} {map : σ → τ}

theorem pure (value : α) :
    Carried map (Pure.pure value : Reading ε σ α) (Pure.pure value) :=
  fun _ => rfl

theorem fail (error : ε) :
    Carried map (Reading.fail error : Reading ε σ α) (Reading.fail error) :=
  fun _ => rfl

theorem ofExcept (result : Except ε α) :
    Carried map (Reading.ofExcept result : Reading ε σ α) (Reading.ofExcept result) :=
  fun _ => rfl

theorem bind {first : Reading ε σ α} {first' : Reading ε τ α}
    {next : α → Reading ε σ β} {next' : α → Reading ε τ β}
    (firstCarried : Carried map first first')
    (nextCarried : ∀ value, Carried map (next value) (next' value)) :
    Carried map (first >>= next) (first' >>= next') := by
  intro stream
  have firstResult := firstCarried stream
  cases answer : first stream with
  | mk outcome rest =>
      rw [answer] at firstResult
      cases outcome with
      | ok value =>
          rw [Reading.bind_of_ok answer, Reading.bind_of_ok firstResult]
          exact nextCarried value rest
      | error error =>
          rw [Reading.bind_of_error answer, Reading.bind_of_error firstResult]

theorem mapError {action : Reading ε σ α} {action' : Reading ε τ α}
    (carried : Carried map action action') (convert : ε → ε') :
    Carried map (Reading.mapError convert action)
      (Reading.mapError convert action') := by
  intro stream
  have result := carried stream
  cases answer : action stream with
  | mk outcome rest =>
      rw [answer] at result
      cases outcome with
      | ok value =>
          rw [Reading.mapError_of_ok answer, Reading.mapError_of_ok result]
      | error error =>
          rw [Reading.mapError_of_error answer, Reading.mapError_of_error result]

/-- A buffer is filled alike where `read_exact` takes the same bytes. -/
theorem readBuffer [Read σ] [Read τ] {need : Nat}
    (taken : Carried map (readExact need : Reading IoError σ Bytes) (readExact need)) :
    Carried map (Support.readBuffer need : Reading IoError σ _)
      (Support.readBuffer need) := by
  intro stream
  have result := taken stream
  cases answer : readExact need stream with
  | mk outcome rest =>
      rw [answer] at result
      cases outcome with
      | ok bytes => rw [readBuffer_of_ok answer, readBuffer_of_ok result]
      | error error => rw [readBuffer_of_error answer, readBuffer_of_error result]

end Carried

/-- Two views of one computation: on a stream it gives what it gives on the
content of the stream, and leaves the matching rest behind. -/
def Refines {ε σ α : Type} [ByteStream σ] (concrete : Reading ε σ α)
    (abstract : Reading ε (List Item) α) : Prop :=
  ∀ stream, abstract (ByteStream.items stream) =
    ((concrete stream).1, ByteStream.items (concrete stream).2)

namespace Refines

variable {σ : Type} [ByteStream σ]

/-- However the stream splits its content, `read_exact` takes the same
bytes. -/
theorem readExact (need : Nat) :
    Refines (Support.readExact need : Reading IoError σ Bytes)
      (takeExact need) := by
  intro stream
  fun_induction Support.readExact need stream with
  | case1 => simp [takeExact]
  | case2 need stream positive next answer =>
      obtain ⟨atEnd, nextEnd⟩ :=
        items_of_read_nothing (Nat.pos_of_ne_zero positive) answer
      rw [atEnd, nextEnd]
      cases need with
      | zero => exact (positive rfl).elim
      | succ need => simp [takeExact]
  | case3 need stream positive bytes next answer _ rest last tail induction =>
      have short := Read.length_read_le answer
      have split := items_of_read_ok (Nat.pos_of_ne_zero positive) answer
      have taken := takeExact_append bytes.length (need - bytes.length) bytes
        rfl (ByteStream.items next)
      rw [Nat.add_sub_cancel' short, induction, tail] at taken
      rw [split]
      exact taken
  | case4 need stream positive bytes next answer _ error last tail induction =>
      have short := Read.length_read_le answer
      have split := items_of_read_ok (Nat.pos_of_ne_zero positive) answer
      have taken := takeExact_append bytes.length (need - bytes.length) bytes
        rfl (ByteStream.items next)
      rw [Nat.add_sub_cancel' short, induction, tail] at taken
      rw [split]
      exact taken
  | case5 need stream positive error next answer again induction =>
      rw [items_of_read_error (Nat.pos_of_ne_zero positive) answer]
      cases need with
      | zero => exact (positive rfl).elim
      | succ need => simpa [takeExact, again] using induction
  | case6 need stream positive error next answer stop =>
      rw [items_of_read_error (Nat.pos_of_ne_zero positive) answer]
      cases need with
      | zero => exact (positive rfl).elim
      | succ need => simp [takeExact, stop]

end Refines

/-! ## Streams -/

/-- A read of one byte at most. -/
def readContent : Nat → List Item → Except IoError Bytes × List Item
  | _, [] => (.ok [], [])
  | 0, content => (.ok [], content)
  | _ + 1, .byte value :: rest => (.ok [value], rest)
  | _ + 1, .fail error :: rest => (.error error, rest)

/-- The content itself as a stream that delivers one byte a read. -/
instance : ByteStream (List Item) where
  read := readContent
  interrupts content :=
    content.countP fun
      | .byte _ => false
      | .fail error => error.kind = .interrupted
  length_read_le := by
    intro size content bytes next answer
    unfold readContent at answer
    split at answer <;> grind
  interrupts_read_le := by
    intro size content
    unfold readContent
    split <;> simp [List.countP_cons]
  interrupts_read_lt := by
    intro size content error next answer again
    unfold readContent at answer
    split at answer <;> simp_all
  items := id
  items_read := by
    intro size content positive
    cases content with
    | nil => simp [readContent]
    | cons item rest =>
        cases size with
        | zero => simp at positive
        | succ size => cases item <;> simp [readContent]

@[simp] theorem items_content (content : List Item) :
    ByteStream.items content = content := rfl

/-- Reads of one byte each fetch nothing beyond what is needed. -/
theorem fetch_content {size need before past : Nat} {content : List Item}
    (positive : 0 < need) (fetched : fetch size need content = some (before, past)) :
    past = 0 := by
  induction need generalizing content before with
  | zero => simp at positive
  | succ need induction =>
      rw [fetch] at fetched
      cases answer : Read.read size content with
      | mk outcome next =>
          cases outcome with
          | error error => simp [answer] at fetched
          | ok chunk =>
              have single : chunk.length ≤ 1 := by
                have direct : readContent size content = (.ok chunk, next) := answer
                unfold readContent at direct
                split at direct <;> grind
              rw [answer] at fetched
              by_cases ended : chunk = []
              · simp [ended] at fetched
              · have chunkPositive := List.length_pos_iff.mpr ended
                have one : chunk.length = 1 := by omega
                simp only [dif_neg ended, one, Nat.add_sub_cancel] at fetched
                by_cases last : need = 0
                · simp [last] at fetched
                  exact fetched.2.symm
                · rw [if_neg (by omega)] at fetched
                  obtain ⟨⟨later, beyond⟩, restFetched, same⟩ :=
                    Option.map_eq_some_iff.mp fetched
                  obtain ⟨_, rfl⟩ := Prod.mk.inj same
                  exact induction (Nat.pos_of_ne_zero last) restFetched

/-- On a content, `read_exact` takes bytes one by one. -/
theorem readExact_content (need : Nat) (content : List Item) :
    readExact need content = takeExact need content :=
  (Refines.readExact need content).symm

theorem length_of_takeExact {need : Nat} {content : List Item} {bytes : Bytes}
    (taken : (takeExact need content).1 = .ok bytes) : bytes.length = need := by
  have read : readExact need content = (.ok bytes, (takeExact need content).2) :=
    (readExact_content need content).trans (Prod.ext taken rfl)
  exact length_readExact read

/-- A buffer is filled with the same bytes from every stream with the same
content. -/
theorem Refines.readBuffer {σ : Type} [ByteStream σ] (need : Nat) :
    Refines (Support.readBuffer need : Reading IoError σ _)
      (Support.readBuffer need) := by
  apply Carried.readBuffer
  intro stream
  rw [readExact_content]
  exact Refines.readExact need stream

/-- What one read may return at most: a nonempty run of bytes. -/
abbrev Segment : Type := { bytes : Bytes // bytes ≠ [] }

/-- A scripted stream: the answers it gives to its reads, in order, and then
the end.  A read into a buffer smaller than a segment leaves the rest of the
segment for the next read. -/
abbrev Source : Type := List (Except IoError Segment)

namespace Source

def items (source : Source) : List Item :=
  source.flatMap fun
    | .ok segment => segment.val.map .byte
    | .error error => [.fail error]

def read (size : Nat) : Source → Except IoError Bytes × Source
  | [] => (.ok [], [])
  | .error error :: rest => (.error error, rest)
  | .ok segment :: rest =>
      if long : size < segment.val.length then
        (.ok (segment.val.take size),
          .ok ⟨segment.val.drop size, by simpa using long⟩ :: rest)
      else (.ok segment.val, rest)

@[simp] theorem items_nil : items [] = [] := rfl

@[simp] theorem items_segment (segment : Segment) (rest : Source) :
    items (.ok segment :: rest) = segment.val.map .byte ++ items rest := by
  simp [items]

@[simp] theorem items_error (error : IoError) (rest : Source) :
    items (.error error :: rest) = .fail error :: items rest := by
  simp [items]

instance : ByteStream Source where
  read := read
  interrupts source :=
    source.countP fun
      | .ok _ => false
      | .error error => error.kind = .interrupted
  length_read_le := by
    intro size source bytes next answer
    unfold read at answer
    split at answer
    · grind
    · grind
    · split at answer
      · simp only [Prod.mk.injEq, Except.ok.injEq] at answer
        rw [← answer.1, List.length_take]
        exact Nat.min_le_left _ _
      · simp only [Prod.mk.injEq, Except.ok.injEq] at answer
        rw [← answer.1]
        exact Nat.le_of_not_lt ‹_›
  interrupts_read_le := by
    intro size source
    unfold read
    split
    · simp
    · simp [List.countP_cons]
    · split <;> simp
  interrupts_read_lt := by
    intro size source error next answer again
    unfold read at answer
    split at answer
    · simp at answer
    · simp_all
    · split at answer <;> simp at answer
  items := items
  items_read := by
    intro size source positive
    cases source with
    | nil => simp [read]
    | cons first rest =>
        cases first with
        | error error => simp [read]
        | ok segment =>
            by_cases long : size < segment.val.length
            · have takeNonempty : segment.val.take size ≠ [] := by
                simp [segment.property, Nat.ne_of_gt positive]
              simp only [read, long, dite_true, items_segment]
              simp [takeNonempty, ← List.append_assoc]
            · simp [read, long, segment.property]

@[simp] theorem items_source (source : Source) :
    ByteStream.items source = source.items := rfl

end Source

end Support
