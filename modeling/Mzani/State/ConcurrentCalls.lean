import Mzani.State.Backend
import Mzani.Support.Machine

/-!
# Concurrent calls on a backend set

Calls of `select_next` and of the probe recorders on one set, one atomic or
lock operation at a time.  A call without interference is the sequential one.
-/

namespace Mzani

open Support

namespace BackendSet

/-- Where a call of `select_next` is: its ticket, and the entry it has found. -/
inductive SelectStep where
  | entered
  | scanning (start : Usize) (offset : Nat)
  | found (start : Usize) (index : Nat) (addr : SocketAddr)
  | exhausted (start : Usize)
  | empty
  deriving DecidableEq

def SelectStep.ticket : SelectStep → Option Usize
  | .entered | .empty => none
  | .scanning start _ | .found start _ _ | .exhausted start => some start

/-- What the call has returned. -/
def SelectStep.result : SelectStep → Option (MzaniResult SocketAddr)
  | .entered | .scanning _ _ => none
  | .found _ _ addr => some (.ok addr)
  | .exhausted _ => some (.error .noHealthyBackend)
  | .empty => some (.error .emptyServerList)

/-- Where a call of `record_probe_success` or `record_probe_failure` is. -/
inductive ProbeStep where
  | entered
  | cleared
  | counted (count : U32)
  | returned
  deriving DecidableEq

inductive Call where
  | select (step : SelectStep)
  | probe (ok : Bool) (addr : SocketAddr) (threshold : U32) (step : ProbeStep)
  deriving DecidableEq

def Call.active : Call → Bool
  | .select step => step.result.isNone
  | .probe _ _ _ step => decide (step ≠ .returned)

def Call.ticket : Call → Option Usize
  | .select step => step.ticket
  | .probe _ _ _ _ => none

/-- The next operation of `select_next`. -/
def advanceSelect (set : BackendSet) : SelectStep → Option (BackendSet × SelectStep)
  | .entered =>
      if set.entries.val.length = 0 then some (set, .empty)
      else
        some ({ set with nextIndex := set.nextIndex + 1 }, .scanning set.nextIndex 0)
  | .scanning start offset =>
      let len := set.entries.val.length
      if offset < len then
        let index := (start + offset) % usizeLimit % len
        match set.entries.val[index]? with
        | none => none
        | some entry =>
            if entry.healthy = true then some (set, .found start index entry.addr)
            else some (set, .scanning start (offset + 1))
      else some (set, .exhausted start)
  | .found _ _ _ | .exhausted _ | .empty => none

/-- Under the lock of the other counter. -/
def clearOther (ok : Bool) (entry : BackendEntry) : BackendEntry :=
  if ok = true then { entry with consecutiveFailures := 0 }
  else { entry with consecutiveSuccesses := 0 }

/-- The counter after this outcome. -/
def counted (ok : Bool) (entry : BackendEntry) : U32 :=
  if ok = true then saturatingSucc entry.consecutiveSuccesses
  else saturatingSucc entry.consecutiveFailures

/-- Under the lock of the counter for this outcome. -/
def setCounter (ok : Bool) (count : U32) (entry : BackendEntry) : BackendEntry :=
  if ok = true then { entry with consecutiveSuccesses := count }
  else { entry with consecutiveFailures := count }

/-- The next operation of `record_probe_success` (`ok`) or
`record_probe_failure`. -/
def advanceProbe (set : BackendSet) (ok : Bool) (addr : SocketAddr) (threshold : U32) :
    ProbeStep → Option (BackendSet × ProbeStep)
  | .entered =>
      match set.entryFor addr with
      | none => some (set, .returned)
      | some _ => some (set.modifyEntry addr (clearOther ok), .cleared)
  | .cleared =>
      match set.entryFor addr with
      | none => none
      | some entry =>
          let count := counted ok entry
          some (set.modifyEntry addr (setCounter ok count), .counted count)
  | .counted count =>
      if threshold ≤ count then
        some (set.modifyEntry addr fun entry => { entry with healthy := ok }, .returned)
      else some (set, .returned)
  | .returned => none

def advanceCall (set : BackendSet) : Call → Option (BackendSet × Call)
  | .select step =>
      (set.advanceSelect step).map fun (next, after) => (next, .select after)
  | .probe ok addr threshold step =>
      (set.advanceProbe ok addr threshold step).map fun (next, after) =>
        (next, .probe ok addr threshold after)

/-- A set and the calls on it; a call keeps its place when it has returned. -/
structure Shared where
  set : BackendSet
  calls : List Call
  deriving DecidableEq

inductive CallAction where
  | call (call : Call)
  | advance (number : Nat)
  deriving DecidableEq

/-- The call is at its beginning. -/
def Call.entered : Call → Bool
  | .select step => decide (step = .entered)
  | .probe _ _ _ step => decide (step = .entered)

def Shared.step (shared : Shared) : CallAction → Option Shared
  | .call call =>
      if call.entered = true then some { shared with calls := shared.calls ++ [call] }
      else none
  | .advance number =>
      match shared.calls[number]? with
      | none => none
      | some call =>
          match shared.set.advanceCall call with
          | none => none
          | some (set, after) => some { set, calls := shared.calls.set number after }

def Shared.machine : Machine Shared CallAction where
  step := Shared.step

/-- A set that nobody uses. -/
def unused (set : BackendSet) : Shared := { set, calls := [] }

/-- The call has been made and has not returned. -/
def Shared.Active (shared : Shared) (number : Nat) : Prop :=
  ∃ call, shared.calls[number]? = some call ∧ call.active = true

/-! ## What a step does -/

variable {set next : BackendSet} {shared : Shared}

/-- What `select_next` can do next. -/
inductive Selects (set : BackendSet) : SelectStep → BackendSet → SelectStep → Prop where
  | empty : set.entries.val.length = 0 → Selects set .entered set .empty
  | draw : set.entries.val.length ≠ 0 →
      Selects set .entered { set with nextIndex := set.nextIndex + 1 }
        (.scanning set.nextIndex 0)
  | find {start : Usize} {offset : Nat} {entry : BackendEntry} :
      offset < set.entries.val.length →
      set.entries.val[(start + offset) % usizeLimit % set.entries.val.length]? =
        some entry →
      entry.healthy = true →
      Selects set (.scanning start offset) set
        (.found start ((start + offset) % usizeLimit % set.entries.val.length) entry.addr)
  | skip {start : Usize} {offset : Nat} {entry : BackendEntry} :
      offset < set.entries.val.length →
      set.entries.val[(start + offset) % usizeLimit % set.entries.val.length]? =
        some entry →
      entry.healthy = false →
      Selects set (.scanning start offset) set (.scanning start (offset + 1))
  | exhaust {start : Usize} {offset : Nat} : set.entries.val.length ≤ offset →
      Selects set (.scanning start offset) set (.exhausted start)

theorem selects_of_advanceSelect {step after : SelectStep}
    (taken : set.advanceSelect step = some (next, after)) :
    Selects set step next after := by
  cases step with
  | entered =>
      simp only [advanceSelect] at taken
      split at taken
      case isTrue empty =>
          cases taken
          exact .empty empty
      case isFalse nonempty =>
          cases taken
          exact .draw nonempty
  | scanning start offset =>
      simp only [advanceSelect] at taken
      split at taken
      case isTrue inside =>
          split at taken
          · cases taken
          case h_2 entry found =>
              split at taken
              case isTrue healthy =>
                  cases taken
                  exact .find inside found healthy
              case isFalse unhealthy =>
                  cases taken
                  exact .skip inside found (Bool.eq_false_iff.mpr unhealthy)
      case isFalse done =>
          cases taken
          exact .exhaust (Nat.le_of_not_lt done)
  | found start index addr => cases taken
  | exhausted start => cases taken
  | empty => cases taken

theorem addr_clearOther (ok : Bool) (entry : BackendEntry) :
    (clearOther ok entry).addr = entry.addr := by
  cases ok <;> rfl

theorem addr_setCounter (ok : Bool) (count : U32) (entry : BackendEntry) :
    (setCounter ok count entry).addr = entry.addr := by
  cases ok <;> rfl

/-- What a recorder can do next. -/
inductive Probes (set : BackendSet) (ok : Bool) (addr : SocketAddr) (threshold : U32) :
    ProbeStep → BackendSet → ProbeStep → Prop where
  | unknown : set.entryFor addr = none → Probes set ok addr threshold .entered set .returned
  | clear {entry : BackendEntry} : set.entryFor addr = some entry →
      Probes set ok addr threshold .entered (set.modifyEntry addr (clearOther ok)) .cleared
  | count {entry : BackendEntry} : set.entryFor addr = some entry →
      Probes set ok addr threshold .cleared
        (set.modifyEntry addr (setCounter ok (counted ok entry))) (.counted (counted ok entry))
  | store {count : U32} : threshold ≤ count →
      Probes set ok addr threshold (.counted count)
        (set.modifyEntry addr fun entry => { entry with healthy := ok }) .returned
  | skip {count : U32} : ¬threshold ≤ count →
      Probes set ok addr threshold (.counted count) set .returned

theorem probes_of_advanceProbe {ok : Bool} {addr : SocketAddr}
    {threshold : U32} {step after : ProbeStep}
    (taken : set.advanceProbe ok addr threshold step = some (next, after)) :
    Probes set ok addr threshold step next after := by
  cases step with
  | entered =>
      simp only [advanceProbe] at taken
      split at taken
      case h_1 unknown =>
          cases taken
          exact .unknown unknown
      case h_2 entry found =>
          cases taken
          exact .clear found
  | cleared =>
      simp only [advanceProbe] at taken
      split at taken
      case h_1 => cases taken
      case h_2 entry found =>
          cases taken
          exact .count found
  | counted count =>
      simp only [advanceProbe] at taken
      split at taken
      case isTrue reached =>
          cases taken
          exact .store reached
      case isFalse below =>
          cases taken
          exact .skip below
  | returned => cases taken

/-- The probe recorders change neither the addresses nor the ticket. -/
theorem Probes.keeps {ok : Bool} {addr : SocketAddr} {threshold : U32}
    {step after : ProbeStep} (probes : Probes set ok addr threshold step next after) :
    next.addresses = set.addresses ∧ next.nextIndex = set.nextIndex := by
  cases probes with
  | unknown => exact ⟨rfl, rfl⟩
  | clear => exact ⟨addresses_modifyEntry set addr (addr_clearOther ok), rfl⟩
  | count => exact ⟨addresses_modifyEntry set addr (addr_setCounter ok _), rfl⟩
  | store => exact ⟨addresses_modifyEntry set addr fun _ => rfl, rfl⟩
  | skip => exact ⟨rfl, rfl⟩

/-- A step is the begin of a call, or the next operation of one. -/
theorem Shared.step_cases {action : CallAction} {next : Shared}
    (taken : shared.step action = some next) :
    (∃ call : Call, call.entered = true ∧
      next = { shared with calls := shared.calls ++ [call] }) ∨
    (∃ number step after set, shared.calls[number]? = some (.select step) ∧
      Selects shared.set step set after ∧
      next = { set, calls := shared.calls.set number (.select after) }) ∨
    ∃ number ok addr threshold step after set,
      shared.calls[number]? = some (.probe ok addr threshold step) ∧
        Probes shared.set ok addr threshold step set after ∧
        next = { set, calls := shared.calls.set number (.probe ok addr threshold after) } := by
  cases action with
  | call call =>
      simp only [Shared.step] at taken
      split at taken
      case isTrue entered =>
          cases taken
          exact .inl ⟨call, entered, rfl⟩
      case isFalse => cases taken
  | advance number =>
      simp only [Shared.step] at taken
      split at taken
      · cases taken
      case h_2 call found =>
          split at taken
          · cases taken
          case h_2 after moved =>
              cases taken
              cases call with
              | select step =>
                  simp only [advanceCall, Option.map_eq_some_iff] at moved
                  obtain ⟨⟨_, _⟩, advanced, same⟩ := moved
                  cases same
                  exact .inr (.inl ⟨_, _, _, _, found, selects_of_advanceSelect advanced, rfl⟩)
              | probe ok addr threshold step =>
                  simp only [advanceCall, Option.map_eq_some_iff] at moved
                  obtain ⟨⟨_, _⟩, advanced, same⟩ := moved
                  cases same
                  exact .inr (.inr ⟨_, _, _, _, _, _, _, found,
                    probes_of_advanceProbe advanced, rfl⟩)

/-- What a step can do to a set and its calls. -/
inductive SharedSteps (shared : Shared) : Shared → Prop where
  | call {call : Call} : call.entered = true →
      SharedSteps shared { shared with calls := shared.calls ++ [call] }
  | select {number : Nat} {step after : SelectStep} {next : BackendSet} :
      shared.calls[number]? = some (.select step) →
      Selects shared.set step next after →
      SharedSteps shared { set := next, calls := shared.calls.set number (.select after) }
  | probe {number : Nat} {ok : Bool} {addr : SocketAddr} {threshold : U32}
      {step after : ProbeStep} {next : BackendSet} :
      shared.calls[number]? = some (.probe ok addr threshold step) →
      next.addresses = shared.set.addresses → next.nextIndex = shared.set.nextIndex →
      SharedSteps shared
        { set := next, calls := shared.calls.set number (.probe ok addr threshold after) }

theorem sharedSteps_of_step {action : CallAction} {next : Shared}
    (taken : shared.step action = some next) : SharedSteps shared next := by
  rcases Shared.step_cases taken with ⟨call, entered, rfl⟩ |
    ⟨number, step, after, set, found, selects, rfl⟩ |
    ⟨number, ok, addr, threshold, step, after, set, found, probes, rfl⟩
  · exact .call entered
  · exact .select found selects
  · exact .probe found probes.keeps.1 probes.keeps.2

theorem SharedSteps.addresses {next : Shared} (steps : SharedSteps shared next) :
    next.set.addresses = shared.set.addresses := by
  cases steps with
  | call => rfl
  | select _ selects => cases selects <;> rfl
  | probe _ addresses => exact addresses

/-! ## Calls on their own -/

/-- The next operation of the call that was made last. -/
theorem advance_last {calls : List Call} {call after : Call}
    (moved : set.advanceCall call = some (next, after)) :
    Shared.machine.step { set, calls := calls ++ [call] } (.advance calls.length) =
      some { set := next, calls := calls ++ [after] } := by
  simp [Shared.machine, Shared.step, moved]

/-- The result of a scan over the offsets. -/
def scanResult (set : BackendSet) (start : Usize) (offsets : List Nat) :
    MzaniResult SocketAddr :=
  (offsets.findSome? fun offset =>
      (set.entries.val[(start + offset) % usizeLimit % set.entries.val.length]?).filter
        (·.healthy)).elim
    (.error .noHealthyBackend) fun entry => .ok entry.addr

/-- A scan from an offset on, when nothing else happens. -/
theorem scan_alone (set : BackendSet) (calls : List Call) (start : Usize)
    (rest offset : Nat) (length : offset + rest = set.entries.val.length) :
    ∃ steps after,
      Shared.machine.run { set, calls := calls ++ [.select (.scanning start offset)] }
          (List.replicate steps (.advance calls.length)) =
        some { set, calls := calls ++ [.select after] } ∧
      after.result = some (set.scanResult start (List.range' offset rest)) := by
  induction rest generalizing offset with
  | zero =>
      have through : ¬offset < set.entries.val.length := by omega
      refine ⟨1, .exhausted start, ?_, rfl⟩
      apply Machine.run_cons_eq_some_iff.mpr
      refine ⟨_, advance_last ?_, rfl⟩
      simp [advanceCall, advanceSelect, through]
  | succ rest ih =>
      have inside : offset < set.entries.val.length := by omega
      have indexInside : (start + offset) % usizeLimit % set.entries.val.length <
          set.entries.val.length := Nat.mod_lt _ (by omega)
      obtain ⟨entry, atIndex⟩ : ∃ entry, set.entries.val[(start + offset) % usizeLimit %
          set.entries.val.length]? = some entry := ⟨_, List.getElem?_eq_getElem indexInside⟩
      by_cases healthy : entry.healthy = true
      · refine ⟨1, .found start ((start + offset) % usizeLimit %
          set.entries.val.length) entry.addr, ?_, ?_⟩
        · apply Machine.run_cons_eq_some_iff.mpr
          refine ⟨_, advance_last ?_, rfl⟩
          simp [advanceCall, advanceSelect, inside, atIndex, healthy]
        · have taken : (some entry).filter (·.healthy) = some entry := by
            simp [Option.filter, healthy]
          simp [scanResult, List.range'_succ, atIndex, taken, SelectStep.result]
      · obtain ⟨steps, after, run, result⟩ := ih (offset + 1) (by omega)
        refine ⟨steps + 1, after, ?_, ?_⟩
        · apply Machine.run_cons_eq_some_iff.mpr
          refine ⟨_, advance_last ?_, run⟩
          simp [advanceCall, advanceSelect, inside, atIndex, healthy]
        · have skipped : (some entry).filter (·.healthy) = none := by
            simp [Option.filter, healthy]
          simp [result, scanResult, List.range'_succ, atIndex, skipped]

/-- A selection without interference is `select_next`. -/
theorem select_alone (set : BackendSet) (calls : List Call) :
    ∃ steps after,
      Shared.machine.run { set, calls }
          (.call (.select .entered) :: List.replicate steps (.advance calls.length)) =
        some { set := set.selectNext.2, calls := calls ++ [.select after] } ∧
      after.result = some set.selectNext.1 := by
  by_cases empty : set.entries.val.length = 0
  · refine ⟨1, .empty, ?_, by simp [selectNext, empty, SelectStep.result]⟩
    apply Machine.run_cons_eq_some_iff.mpr
    refine ⟨_, rfl, Machine.run_cons_eq_some_iff.mpr ⟨_, advance_last ?_, rfl⟩⟩
    simp [advanceCall, advanceSelect, empty, selectNext]
  · let advanced : BackendSet := { set with nextIndex := set.nextIndex + 1 }
    obtain ⟨steps, after, run, result⟩ :=
      scan_alone advanced calls set.nextIndex set.entries.val.length 0 (Nat.zero_add _)
    have drawn : set.advanceCall (.select .entered) =
        some (advanced, .select (.scanning set.nextIndex 0)) := by
      simp [advanceCall, advanceSelect, empty, advanced]
    refine ⟨steps + 1, after, ?_, ?_⟩
    · apply Machine.run_cons_eq_some_iff.mpr
      refine ⟨_, rfl, Machine.run_cons_eq_some_iff.mpr ⟨_, advance_last drawn, ?_⟩⟩
      rw [run, selectNext_eq empty]
    · rw [result, selectNext_eq empty, scanResult, ← List.range_eq_range']
      rfl

theorem modifyEntry_modifyEntry (set : BackendSet) (addr : SocketAddr)
    {change : BackendEntry → BackendEntry} (keeps : ∀ entry, (change entry).addr = entry.addr)
    (more : BackendEntry → BackendEntry) :
    (set.modifyEntry addr change).modifyEntry addr more =
      set.modifyEntry addr (more ∘ change) := by
  simp only [modifyEntry]
  congr 2
  apply modifyFirst_modifyFirst
  intro entry
  rw [keeps]

/-- Only the entry that is found matters. -/
theorem modifyEntry_congr {addr : SocketAddr} {change other : BackendEntry → BackendEntry}
    (same : ∀ entry, set.entryFor addr = some entry → change entry = other entry) :
    set.modifyEntry addr change = set.modifyEntry addr other := by
  simp only [modifyEntry]
  congr 2
  exact modifyFirst_congr same

/-- What a recorder does to the entry that it finds, step by step. -/
def recordedEntry (ok : Bool) (threshold : U32) (entry : BackendEntry) : BackendEntry :=
  let count := counted ok entry
  let entry := setCounter ok count (clearOther ok entry)
  if threshold ≤ count then { entry with healthy := ok } else entry

theorem recordedEntry_eq (ok : Bool) (threshold : U32) (entry : BackendEntry) :
    recordedEntry ok threshold entry =
      if ok = true then countSuccess threshold entry else countFailure threshold entry := by
  cases ok with
  | true =>
      by_cases reached : threshold ≤ saturatingSucc entry.consecutiveSuccesses
      · simp [recordedEntry, counted, setCounter, clearOther, countSuccess, reached]
      · simp [recordedEntry, counted, setCounter, clearOther, countSuccess, reached]
  | false =>
      by_cases reached : threshold ≤ saturatingSucc entry.consecutiveFailures
      · simp [recordedEntry, counted, setCounter, clearOther, countFailure, reached]
      · simp [recordedEntry, counted, setCounter, clearOther, countFailure, reached]

theorem counted_clearOther (ok : Bool) (entry : BackendEntry) :
    counted ok (clearOther ok entry) = counted ok entry := by
  cases ok <;> rfl

/-- The sequential recorders. -/
theorem modifyEntry_recordedEntry (set : BackendSet) (ok : Bool) (addr : SocketAddr)
    (threshold : U32) :
    (if ok = true then set.recordProbeSuccess addr threshold
      else set.recordProbeFailure addr threshold) =
      set.modifyEntry addr (recordedEntry ok threshold) := by
  have same : recordedEntry ok threshold = fun entry =>
      if ok = true then countSuccess threshold entry else countFailure threshold entry :=
    funext (recordedEntry_eq ok threshold)
  cases ok <;> simp [same, recordProbeSuccess, recordProbeFailure]

/-- A recorder without interference is the sequential one. -/
theorem probe_alone (set : BackendSet) (calls : List Call) (ok : Bool) (addr : SocketAddr)
    (threshold : U32) :
    ∃ steps, Shared.machine.run { set, calls }
        (.call (.probe ok addr threshold .entered) ::
          List.replicate steps (.advance calls.length)) =
      some
        { set := if ok = true then set.recordProbeSuccess addr threshold
            else set.recordProbeFailure addr threshold
          calls := calls ++ [.probe ok addr threshold .returned] } := by
  rw [modifyEntry_recordedEntry]
  cases found : set.entryFor addr with
  | none =>
      have untouched : set.modifyEntry addr (recordedEntry ok threshold) = set := by
        simp [modifyEntry, modifyFirst_none found]
      have first : set.advanceCall (.probe ok addr threshold .entered) =
          some (set, .probe ok addr threshold .returned) := by
        simp [advanceCall, advanceProbe, found]
      refine ⟨1, Machine.run_cons_eq_some_iff.mpr ⟨_, rfl, ?_⟩⟩
      refine Machine.run_cons_eq_some_iff.mpr ⟨_, advance_last first, ?_⟩
      rw [untouched]
      rfl
  | some entry =>
      let cleared := set.modifyEntry addr (clearOther ok)
      let count := counted ok entry
      let numbered := cleared.modifyEntry addr (setCounter ok count)
      have first : set.advanceCall (.probe ok addr threshold .entered) =
          some (cleared, .probe ok addr threshold .cleared) := by
        simp [advanceCall, advanceProbe, found, cleared]
      have foundCleared : cleared.entryFor addr = some (clearOther ok entry) := by
        simp [cleared, entryFor_modifyEntry set addr (addr_clearOther ok), found]
      have second : cleared.advanceCall (.probe ok addr threshold .cleared) =
          some (numbered, .probe ok addr threshold (.counted count)) := by
        simp [advanceCall, advanceProbe, foundCleared, counted_clearOther, numbered, count]
      have third : numbered.advanceCall (.probe ok addr threshold (.counted count)) =
          some (set.modifyEntry addr (recordedEntry ok threshold),
            .probe ok addr threshold .returned) := by
        have numberedEq : numbered =
            set.modifyEntry addr (setCounter ok count ∘ clearOther ok) :=
          modifyEntry_modifyEntry set addr (addr_clearOther ok) _
        have keeps : ∀ entry, ((setCounter ok count ∘ clearOther ok) entry).addr =
            entry.addr := by
          intro entry
          exact (addr_setCounter ok count _).trans (addr_clearOther ok entry)
        simp only [advanceCall, advanceProbe]
        split
        case isTrue reached =>
            rw [Option.map_some, numberedEq, modifyEntry_modifyEntry set addr keeps]
            congr 2
            apply modifyEntry_congr
            intro other sameEntry
            obtain rfl := Option.some.inj (found.symm.trans sameEntry)
            simp [recordedEntry, count, reached]
        case isFalse below =>
            rw [Option.map_some, numberedEq]
            congr 2
            apply modifyEntry_congr
            intro other sameEntry
            obtain rfl := Option.some.inj (found.symm.trans sameEntry)
            simp [recordedEntry, count, below]
      refine ⟨3, Machine.run_cons_eq_some_iff.mpr ⟨_, rfl, ?_⟩⟩
      refine Machine.run_cons_eq_some_iff.mpr ⟨_, advance_last first, ?_⟩
      refine Machine.run_cons_eq_some_iff.mpr ⟨_, advance_last second, ?_⟩
      exact Machine.run_cons_eq_some_iff.mpr ⟨_, advance_last third, rfl⟩

/-! ## Results -/

/-- A call of `select_next` on the set has the result in some interleaving. -/
def Returns (set : BackendSet) (result : MzaniResult SocketAddr) : Prop :=
  ∃ (actions : List CallAction) (final : Shared) (number : Nat) (step : SelectStep),
    Shared.machine.run (unused set) actions = some final ∧
    final.calls[number]? = some (.select step) ∧ step.result = some result

theorem returns_selectNext (set : BackendSet) : set.Returns set.selectNext.1 := by
  obtain ⟨steps, after, run, result⟩ := select_alone set []
  exact ⟨_, _, 0, after, run, rfl, result⟩

/-- No call finds a set with backends empty. -/
theorem not_empty_of_run (nonempty : set.entries.val ≠ []) {actions : List CallAction}
    {final : Shared}
    (run : Shared.machine.run (unused set) actions = some final) :
    final.set.addresses = set.addresses ∧ Call.select .empty ∉ final.calls := by
  apply Machine.run_induction (fun _ (shared : Shared) =>
    shared.set.addresses = set.addresses ∧ Call.select .empty ∉ shared.calls)
    ⟨rfl, List.not_mem_nil⟩ _ run
  rintro _ shared action next ⟨same, absent⟩ taken
  have steps := sharedSteps_of_step taken
  refine ⟨steps.addresses.trans same, ?_⟩
  intro member
  cases steps with
  | call entered =>
      rcases List.mem_append.mp member with before | now
      · exact absent before
      · rw [← List.mem_singleton.mp now] at entered
        cases entered
  | select _ selects =>
      rcases List.mem_or_eq_of_mem_set member with before | now
      · exact absent before
      · cases now
        cases selects with
        | empty empty =>
            have length := congrArg List.length same
            simp only [addresses, List.length_map, empty] at length
            exact nonempty (List.length_eq_zero_iff.mp length.symm)
  | probe =>
      rcases List.mem_or_eq_of_mem_set member with before | now
      · exact absent before
      · cases now

/-- A selection among some backends gives one or finds none healthy. -/
theorem Returns.cases {result : MzaniResult SocketAddr} (returns : set.Returns result)
    (nonempty : set.entries.val ≠ []) :
    result = .error .noHealthyBackend ∨ ∃ addr, result = .ok addr := by
  obtain ⟨actions, final, number, step, run, found, returned⟩ := returns
  have absent := (not_empty_of_run nonempty run).2
  cases step with
  | entered => cases returned
  | scanning start offset => cases returned
  | found start index addr =>
      cases returned
      exact .inr ⟨addr, rfl⟩
  | exhausted start =>
      cases returned
      exact .inl rfl
  | empty => exact absurd (List.mem_of_getElem? found) absent

end BackendSet

end Mzani
