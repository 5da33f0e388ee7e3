import Mzani.Support.ByteStream

/-!
# Recorded reads

A recorder passes every read on to the reader it wraps and notes the call.  No
computation can tell it from that reader, so what a computation reads is a
property of its run over a recorder.
-/

namespace Support

/-! ## Readers that behave alike -/

/-- A map between readers under which every read gives the same answer. -/
def ReaderMap {σ τ : Type} [Read σ] [Read τ] (map : σ → τ) : Prop :=
  ∀ size, Carried map (Read.read size : Reading IoError σ Bytes) (Read.read size)

/-- One read of `read_exact`. -/
theorem readExact_step {σ : Type} [Read σ] {need : Nat} (positive : need ≠ 0)
    (stream : σ) :
    readExact need stream =
      match Read.read need stream with
      | (.ok bytes, next) =>
          if bytes = [] then (.error readExactEof, next)
          else
            match readExact (need - bytes.length) next with
            | (.ok rest, last) => (.ok (bytes ++ rest), last)
            | (.error error, last) => (.error error, last)
      | (.error error, next) =>
          if error.kind = .interrupted then readExact need next
          else (.error error, next) := by
  rw [readExact, if_neg positive]
  split <;> rename_i answer
  all_goals rw [answer]
  all_goals rfl

theorem ReaderMap.readExact {σ τ : Type} [Read σ] [Read τ] {map : σ → τ}
    (readerMap : ReaderMap map) (need : Nat) :
    Carried map (Support.readExact need : Reading IoError σ Bytes)
      (Support.readExact need) := by
  intro stream
  fun_induction Support.readExact need stream with
  | case1 stream => simp [Support.readExact]
  | case2 need stream positive next answer =>
      have image := readerMap need stream
      rw [answer] at image
      rw [readExact_step positive, image]
      rfl
  | case3 need stream positive bytes next answer nonempty rest last tail induction =>
      have image := readerMap need stream
      rw [answer] at image
      rw [tail] at induction
      rw [readExact_step positive, image]
      simp [nonempty, induction]
  | case4 need stream positive bytes next answer nonempty error last tail induction =>
      have image := readerMap need stream
      rw [answer] at image
      rw [tail] at induction
      rw [readExact_step positive, image]
      simp [nonempty, induction]
  | case5 need stream positive error next answer again induction =>
      have image := readerMap need stream
      rw [answer] at image
      rw [readExact_step positive, image]
      simpa [again] using induction
  | case6 need stream positive error next answer stop =>
      have image := readerMap need stream
      rw [answer] at image
      rw [readExact_step positive, image]
      simp [stop]

/-! ## Recorders -/

/-- One call of `read`: the size of its buffer and its answer. -/
structure ReadCall where
  size : Nat
  answer : Except IoError Bytes

/-- The bytes that an answer hands over. -/
def handedOver : Except IoError Bytes → Bytes
  | .ok bytes => bytes
  | .error _ => []

/-- All bytes that some calls delivered, in order. -/
def delivered (calls : List ReadCall) : Bytes :=
  calls.flatMap fun call => handedOver call.answer

@[simp] theorem delivered_nil : delivered [] = [] := rfl

@[simp] theorem delivered_concat (calls : List ReadCall) (call : ReadCall) :
    delivered (calls ++ [call]) = delivered calls ++ handedOver call.answer := by
  simp [delivered]

/-- A reader together with the calls made so far. -/
structure Recorder (σ : Type) where
  inner : σ
  calls : List ReadCall

namespace Recorder

variable {σ : Type} [Read σ]

def new (inner : σ) : Recorder σ := { inner, calls := [] }

def read (size : Nat) (recorder : Recorder σ) :
    Except IoError Bytes × Recorder σ :=
  let answer := Read.read size recorder.inner
  (answer.1, { inner := answer.2, calls := recorder.calls ++ [⟨size, answer.1⟩] })

instance : Read (Recorder σ) where
  read := read
  interrupts recorder := Read.interrupts recorder.inner
  length_read_le := by
    intro size recorder bytes next answer
    simp only [read, Prod.mk.injEq] at answer
    exact Read.length_read_le (Prod.ext answer.1 rfl)
  interrupts_read_le := by
    intro size recorder
    exact Read.interrupts_read_le size recorder.inner
  interrupts_read_lt := by
    intro size recorder error next answer again
    simp only [read, Prod.mk.injEq] at answer
    rw [← answer.2]
    exact Read.interrupts_read_lt (Prod.ext answer.1 rfl) again

theorem readerMap_inner : ReaderMap (inner : Recorder σ → σ) :=
  fun _ _ => rfl

omit [Read σ] in
/-- A run over a recorder is the run over the reader, with its calls. -/
theorem recorded {ε α : Type} {action : Reading ε (Recorder σ) α}
    {alone : Reading ε σ α} (carried : Carried inner action alone) (stream : σ) :
    action (new stream) =
      ((alone stream).1,
        { inner := (alone stream).2, calls := (action (new stream)).2.calls }) := by
  have same := carried (new stream)
  change alone stream = _ at same
  rw [same]

/-- What one read adds to the bytes delivered. -/
theorem delivered_read (size : Nat) (recorder : Recorder σ) :
    delivered (Read.read size recorder).2.calls =
      delivered recorder.calls ++ handedOver (Read.read size recorder).1 := by
  apply delivered_concat

/-- A filled buffer holds the bytes delivered since. -/
theorem delivered_readExact {need : Nat} {recorder last : Recorder σ} {bytes : Bytes}
    (answer : readExact need recorder = (.ok bytes, last)) :
    delivered last.calls = delivered recorder.calls ++ bytes := by
  fun_induction readExact need recorder generalizing bytes last with
  | case1 => simp_all
  | case2 => simp at answer
  | case3 need recorder _ first next read _ rest final tail induction =>
      have step := delivered_read need recorder
      rw [read] at step
      obtain ⟨⟨rfl⟩, rfl⟩ := Prod.mk.inj answer
      rw [induction tail, step, handedOver, List.append_assoc]
  | case4 => simp at answer
  | case5 need recorder _ error next read _ induction =>
      have step := delivered_read need recorder
      rw [read] at step
      rw [induction answer, step, handedOver, List.append_nil]
  | case6 => simp at answer

end Recorder

/-! ## Bounded reading -/

/-- A reader that knows how many bytes it has taken from the reader below; it
hands over all of them at once. -/
class Metered (σ : Type) extends Read σ where
  consumed : σ → Nat
  consumed_read_le : ∀ size stream,
    consumed (read size stream).2 ≤
      consumed stream + (handedOver (read size stream).1).length

instance {σ : Type} [Read σ] : Metered (Recorder σ) where
  consumed recorder := (delivered recorder.calls).length
  consumed_read_le := by
    intro size recorder
    rw [Recorder.delivered_read, List.length_append]

/-- A computation takes at most `bound` bytes, whatever it answers. -/
def Consumes {ε σ α : Type} [Metered σ] (action : Reading ε σ α) (bound : Nat) : Prop :=
  ∀ stream, Metered.consumed (action stream).2 ≤ Metered.consumed stream + bound

namespace Consumes

variable {ε ε' σ α β : Type} [Metered σ] {bound more : Nat}

theorem pure (value : α) : Consumes (Pure.pure value : Reading ε σ α) bound :=
  fun _ => Nat.le_add_right _ _

theorem fail (error : ε) : Consumes (Reading.fail error : Reading ε σ α) bound :=
  fun _ => Nat.le_add_right _ _

theorem ofExcept (result : Except ε α) :
    Consumes (Reading.ofExcept result : Reading ε σ α) bound :=
  fun _ => Nat.le_add_right _ _

theorem mono {action : Reading ε σ α} (consumes : Consumes action bound)
    (larger : bound ≤ more) : Consumes action more := by
  intro stream
  have taken := consumes stream
  omega

theorem mapError {action : Reading ε σ α} (consumes : Consumes action bound)
    (convert : ε → ε') : Consumes (Reading.mapError convert action) bound := by
  intro stream
  have taken := consumes stream
  cases answer : action stream with
  | mk outcome rest =>
      rw [answer] at taken
      cases outcome with
      | ok value => rwa [Reading.mapError_of_ok answer]
      | error error => rwa [Reading.mapError_of_error answer]

theorem bind {first : Reading ε σ α} {next : α → Reading ε σ β}
    (firstConsumes : Consumes first bound)
    (nextConsumes : ∀ value, Consumes (next value) more) :
    Consumes (first >>= next) (bound + more) := by
  intro stream
  have taken := firstConsumes stream
  cases answer : first stream with
  | mk outcome rest =>
      rw [answer] at taken
      cases outcome with
      | ok value =>
          rw [Reading.bind_of_ok answer]
          have later := nextConsumes value rest
          dsimp only at taken
          omega
      | error error =>
          rw [Reading.bind_of_error answer]
          dsimp only at taken ⊢
          omega

/-- What follows reads nothing. -/
theorem bind_free {first : Reading ε σ α} {next : α → Reading ε σ β}
    (firstConsumes : Consumes first bound)
    (nextConsumes : ∀ value, Consumes (next value) 0) :
    Consumes (first >>= next) bound :=
  firstConsumes.bind nextConsumes

theorem ofExcept_bind {result : Except ε α} {next : α → Reading ε σ β}
    (consumes : ∀ value, Consumes (next value) bound) :
    Consumes (Reading.ofExcept result >>= next) bound := by
  intro stream
  cases result with
  | ok value => exact consumes value stream
  | error error => exact Nat.le_add_right _ _

theorem readExact (need : Nat) :
    Consumes (Support.readExact need : Reading IoError σ Bytes) need := by
  intro stream
  fun_induction Support.readExact need stream with
  | case1 => simp
  | case2 need stream _ next answer =>
      have taken := Metered.consumed_read_le need stream
      rw [answer] at taken
      exact Nat.le_trans taken (Nat.add_le_add_left (Nat.zero_le need) _)
  | case3 need stream _ bytes next answer _ rest last tail induction =>
      have short := Read.length_read_le answer
      have taken := Metered.consumed_read_le need stream
      rw [answer] at taken
      rw [tail] at induction
      dsimp only [handedOver] at taken induction ⊢
      omega
  | case4 need stream _ bytes next answer _ error last tail induction =>
      have short := Read.length_read_le answer
      have taken := Metered.consumed_read_le need stream
      rw [answer] at taken
      rw [tail] at induction
      dsimp only [handedOver] at taken induction ⊢
      omega
  | case5 need stream _ error next answer again induction =>
      have taken := Metered.consumed_read_le need stream
      rw [answer] at taken
      dsimp only [handedOver, List.length_nil] at taken
      omega
  | case6 need stream _ error next answer stop =>
      have taken := Metered.consumed_read_le need stream
      rw [answer] at taken
      exact Nat.le_trans taken (Nat.add_le_add_left (Nat.zero_le need) _)

theorem readBuffer (need : Nat) :
    Consumes (Support.readBuffer need : Reading IoError σ _) need := by
  intro stream
  have taken := readExact need stream
  cases answer : Support.readExact need stream with
  | mk outcome rest =>
      rw [answer] at taken
      cases outcome with
      | ok bytes => rwa [readBuffer_of_ok answer]
      | error error => rwa [readBuffer_of_error answer]

end Consumes

end Support
