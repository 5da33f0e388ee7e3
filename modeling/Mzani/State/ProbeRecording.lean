import Mzani.State.ConcurrentCalls

/-!
# Concurrent probe recording

The probe recorders take two locks and a store one after the other.  As long as
the recorders that overlap on a backend record the same outcome, the set ends
up as if they had been called in the order in which they counted.
-/

namespace Mzani

open Support

namespace BackendSet

/-! ## The sequential recorders -/

/-- `record_probe_success` or `record_probe_failure`. -/
def recording (ok : Bool) (addr : SocketAddr) (threshold : U32) : Operation :=
  if ok = true then .success addr threshold else .failure addr threshold

/-- The counter for an outcome. -/
def counter (ok : Bool) (entry : BackendEntry) : U32 :=
  if ok = true then entry.consecutiveSuccesses else entry.consecutiveFailures

theorem entry_ext {entry other : BackendEntry} (addr : entry.addr = other.addr)
    (counters : ∀ ok, counter ok entry = counter ok other)
    (healthy : entry.healthy = other.healthy) : entry = other := by
  have successes : entry.consecutiveSuccesses = other.consecutiveSuccesses := counters true
  have failures : entry.consecutiveFailures = other.consecutiveFailures := counters false
  cases entry
  cases other
  simp_all

theorem counter_clearOther (ok : Bool) (entry : BackendEntry) :
    counter ok (clearOther ok entry) = counter ok entry ∧
      counter (!ok) (clearOther ok entry) = 0 := by
  cases ok <;> exact ⟨rfl, rfl⟩

theorem counter_setCounter (ok : Bool) (count : U32) (entry : BackendEntry) :
    counter ok (setCounter ok count entry) = count ∧
      counter (!ok) (setCounter ok count entry) = counter (!ok) entry := by
  cases ok <;> exact ⟨rfl, rfl⟩

theorem counted_eq (ok : Bool) (entry : BackendEntry) :
    counted ok entry = saturatingSucc (counter ok entry) := by
  cases ok <;> rfl

theorem healthy_clearOther (ok : Bool) (entry : BackendEntry) :
    (clearOther ok entry).healthy = entry.healthy := by
  cases ok <;> rfl

theorem healthy_setCounter (ok : Bool) (count : U32) (entry : BackendEntry) :
    (setCounter ok count entry).healthy = entry.healthy := by
  cases ok <;> rfl

theorem addr_recordedEntry (ok : Bool) (threshold : U32) (entry : BackendEntry) :
    (recordedEntry ok threshold entry).addr = entry.addr := by
  rw [recordedEntry_eq]
  cases ok <;> rfl

theorem counter_recordedEntry (ok : Bool) (threshold : U32) (entry : BackendEntry) :
    counter ok (recordedEntry ok threshold entry) = counted ok entry ∧
      counter (!ok) (recordedEntry ok threshold entry) = 0 := by
  rw [recordedEntry_eq]
  cases ok <;> exact ⟨rfl, rfl⟩

theorem healthy_recordedEntry (ok : Bool) (threshold : U32) (entry : BackendEntry) :
    (recordedEntry ok threshold entry).healthy =
      if threshold ≤ counted ok entry then ok else entry.healthy := by
  rw [recordedEntry_eq]
  cases ok <;> rfl

theorem step_recording (set : BackendSet) (ok : Bool) (addr : SocketAddr)
    (threshold : U32) :
    set.step (recording ok addr threshold) =
      set.modifyEntry addr (recordedEntry ok threshold) := by
  rw [← modifyEntry_recordedEntry]
  cases ok <;> rfl

/-! ## Recorders under way -/

/-- The call has set the other counter to zero, and not counted yet. -/
def Call.Clears (addr : SocketAddr) (ok : Bool) (call : Call) : Prop :=
  ∃ threshold, call = .probe ok addr threshold .cleared

/-- The call has counted up to its threshold, and not stored the outcome yet. -/
def Call.Stores (addr : SocketAddr) (ok : Bool) (call : Call) : Prop :=
  ∃ threshold count, threshold ≤ count ∧ call = .probe ok addr threshold (.counted count)

/-- The sequential call, once this one has counted. -/
def Call.recorded? : Call → Option Operation
  | .select _ => none
  | .probe ok addr threshold step =>
      match step with
      | .entered | .cleared => none
      | .counted _ | .returned => some (recording ok addr threshold)

/-- How an entry differs from the one after the sequential calls: the counters
that calls under way have set to zero, and the outcomes that they have not
stored. -/
structure Tracks (calls : List Call) (addr : SocketAddr)
    (entry sequential : BackendEntry) : Prop where
  cleared : ∀ ok, (∃ call ∈ calls, call.Clears addr ok) → counter (!ok) entry = 0
  counters : ∀ ok, ¬(∃ call ∈ calls, call.Clears addr ok) →
    counter (!ok) entry = counter (!ok) sequential
  stored : ∀ ok, (∃ call ∈ calls, call.Stores addr ok) → sequential.healthy = ok
  healthy : (∀ ok, ¬∃ call ∈ calls, call.Stores addr ok) →
    entry.healthy = sequential.healthy

/-- The set is that after some sequential calls, but for what the calls under
way do. -/
structure Simulates (set : BackendSet) (operations : List Operation) (shared : Shared) :
    Prop where
  recorded : operations.Perm (shared.calls.filterMap Call.recorded?)
  addresses : shared.set.addresses = set.addresses
  tracks : ∀ addr entry sequential, shared.set.entryFor addr = some entry →
    (set.run operations).entryFor addr = some sequential →
    Tracks shared.calls addr entry sequential

/-- Recorders that overlap on one backend record the same outcome. -/
def Unmixed (shared : Shared) : Prop :=
  ∀ addr ok other threshold threshold' step step',
    .probe ok addr threshold step ∈ shared.calls →
      .probe other addr threshold' step' ∈ shared.calls →
        step ≠ .returned → step' ≠ .returned → ok = other

section

variable {calls more : List Call} {addr : SocketAddr} {entry sequential : BackendEntry}

/-- The calls under way are the same. -/
theorem Tracks.of_same (tracks : Tracks calls addr entry sequential)
    (clears : ∀ ok, (∃ call ∈ more, call.Clears addr ok) ↔ ∃ call ∈ calls, call.Clears addr ok)
    (stores : ∀ ok, (∃ call ∈ more, call.Stores addr ok) ↔ ∃ call ∈ calls, call.Stores addr ok) :
    Tracks more addr entry sequential := by
  constructor
  · intro ok clearing
    exact tracks.cleared ok ((clears ok).mp clearing)
  · intro ok quiet
    exact tracks.counters ok fun clearing => quiet ((clears ok).mpr clearing)
  · intro ok storing
    exact tracks.stored ok ((stores ok).mp storing)
  · intro quiet
    exact tracks.healthy fun ok storing => quiet ok ((stores ok).mpr storing)

/-- A step of a call that is not about this backend. -/
theorem Tracks.of_other (tracks : Tracks calls addr entry sequential) {number : Nat}
    {old new : Call} (found : calls[number]? = some old)
    (before : ∀ ok, ¬old.Clears addr ok ∧ ¬old.Stores addr ok)
    (after : ∀ ok, ¬new.Clears addr ok ∧ ¬new.Stores addr ok) :
    Tracks (calls.set number new) addr entry sequential :=
  tracks.of_same
    (fun ok => exists_mem_set_iff found (before ok).1 (after ok).1)
    (fun ok => exists_mem_set_iff found (before ok).2 (after ok).2)

end

theorem Call.not_of_select (step : SelectStep) (addr : SocketAddr) (ok : Bool) :
    ¬(Call.select step).Clears addr ok ∧ ¬(Call.select step).Stores addr ok := by
  constructor
  · rintro ⟨_, same⟩
    cases same
  · rintro ⟨_, _, _, same⟩
    cases same

/-- A recorder at its beginning or its end. -/
theorem Call.not_of_idle {ok : Bool} {addr : SocketAddr} {threshold : U32}
    {step : ProbeStep} (idle : step = .entered ∨ step = .returned) (wanted : SocketAddr)
    (other : Bool) :
    ¬(Call.probe ok addr threshold step).Clears wanted other ∧
      ¬(Call.probe ok addr threshold step).Stores wanted other := by
  constructor
  · rintro ⟨_, same⟩
    cases same
    simp at idle
  · rintro ⟨_, _, _, same⟩
    cases same
    simp at idle

theorem Call.not_of_different {ok : Bool} {addr wanted : SocketAddr} {threshold : U32}
    {step : ProbeStep} (different : wanted ≠ addr) (other : Bool) :
    ¬(Call.probe ok addr threshold step).Clears wanted other ∧
      ¬(Call.probe ok addr threshold step).Stores wanted other := by
  constructor
  · rintro ⟨_, same⟩
    cases same
    exact different rfl
  · rintro ⟨_, _, _, same⟩
    cases same
    exact different rfl

/-! ## One step -/

section

variable {calls : List Call} {number : Nat} {ok : Bool} {addr : SocketAddr}
  {threshold : U32} {entry sequential : BackendEntry}

/-- Of two outcomes, one is this one. -/
theorem not_eq_of_ne {other : Bool} (different : other ≠ ok) : other = !ok := by
  cases ok <;> cases other <;> simp_all

theorem Tracks.clear (tracks : Tracks calls addr entry sequential)
    (found : calls[number]? = some (.probe ok addr threshold .entered))
    (alone : ∀ other, (∃ call ∈ calls, call.Clears addr other) → other = ok) :
    Tracks (calls.set number (.probe ok addr threshold .cleared)) addr
      (clearOther ok entry) sequential := by
  have inside := (List.getElem?_eq_some_iff.mp found).1
  have idle : ∀ other, ¬(Call.probe ok addr threshold .entered).Clears addr other ∧
      ¬(Call.probe ok addr threshold .entered).Stores addr other :=
    Call.not_of_idle (Or.inl rfl) addr
  have noStore : ∀ other, ¬(Call.probe ok addr threshold .cleared).Stores addr other := by
    rintro other ⟨_, _, _, same⟩
    cases same
  constructor
  · rintro other ⟨call, member, clears⟩
    obtain rfl : other = ok := by
      rcases List.mem_or_eq_of_mem_set member with before | rfl
      · exact alone other ⟨call, before, clears⟩
      · obtain ⟨_, same⟩ := clears
        cases same
        rfl
    exact (counter_clearOther other entry).2
  · intro other quiet
    have different : other ≠ ok := by
      rintro rfl
      exact quiet ⟨_, List.mem_set inside _, threshold, rfl⟩
    obtain rfl := not_eq_of_ne different
    rw [Bool.not_not, (counter_clearOther ok entry).1, ← Bool.not_not ok]
    apply tracks.counters
    intro clearing
    exact different (alone _ clearing)
  · intro other storing
    exact tracks.stored other
      ((exists_mem_set_iff found (idle other).2 (noStore other)).mp storing)
  · intro quiet
    rw [healthy_clearOther]
    apply tracks.healthy
    intro other storing
    exact quiet other ((exists_mem_set_iff found (idle other).2 (noStore other)).mpr storing)

theorem Tracks.count (tracks : Tracks calls addr entry sequential)
    (found : calls[number]? = some (.probe ok addr threshold .cleared))
    (clearsAlone : ∀ other, (∃ call ∈ calls, call.Clears addr other) → other = ok)
    (storesAlone : ∀ other, (∃ call ∈ calls, call.Stores addr other) → other = ok) :
    Tracks (calls.set number (.probe ok addr threshold (.counted (counted ok entry)))) addr
      (setCounter ok (counted ok entry) entry) (recordedEntry ok threshold sequential) := by
  have inside := (List.getElem?_eq_some_iff.mp found).1
  have clearing : ∃ call ∈ calls, call.Clears addr ok :=
    ⟨_, List.mem_of_getElem? found, threshold, rfl⟩
  -- no recorder of the other outcome touches the counter
  have sameCounter : counter ok entry = counter ok sequential := by
    rw [← Bool.not_not ok]
    apply tracks.counters
    intro otherClearing
    have same := clearsAlone _ otherClearing
    cases ok <;> cases same
  have sameCount : counted ok entry = counted ok sequential := by
    rw [counted_eq, counted_eq, sameCounter]
  have set_counter := counter_setCounter ok (counted ok entry) entry
  have recorded_counter := counter_recordedEntry ok threshold sequential
  have otherZero : counter (!ok) (setCounter ok (counted ok entry) entry) = 0 :=
    set_counter.2.trans (tracks.cleared ok clearing)
  constructor
  · rintro other ⟨call, member, clears⟩
    rcases List.mem_or_eq_of_mem_set member with before | rfl
    · obtain rfl := clearsAlone other ⟨call, before, clears⟩
      exact otherZero
    · obtain ⟨_, same⟩ := clears
      cases same
  · intro other _
    by_cases same : other = ok
    · subst same
      rw [otherZero, recorded_counter.2]
    · obtain rfl := not_eq_of_ne same
      rw [Bool.not_not, set_counter.1, recorded_counter.1, sameCount]
  · rintro other ⟨call, member, stores⟩
    rw [healthy_recordedEntry, ← sameCount]
    rcases List.mem_or_eq_of_mem_set member with before | rfl
    · obtain rfl := storesAlone other ⟨call, before, stores⟩
      rw [tracks.stored other ⟨call, before, stores⟩, ite_self]
    · obtain ⟨_, _, reached, same⟩ := stores
      cases same
      rw [if_pos reached]
  · intro quiet
    have below : ¬threshold ≤ counted ok entry := by
      intro reached
      exact quiet ok ⟨_, List.mem_set inside _, threshold, _, reached, rfl⟩
    rw [healthy_setCounter, healthy_recordedEntry, ← sameCount, if_neg below]
    apply tracks.healthy
    intro other storing
    have oldNot : ¬(Call.probe ok addr threshold .cleared).Stores addr other := by
      rintro ⟨_, _, _, same⟩
      cases same
    have newNot : ¬(Call.probe ok addr threshold (.counted (counted ok entry))).Stores addr
        other := by
      rintro ⟨_, _, reached, same⟩
      cases same
      exact below reached
    exact quiet other ((exists_mem_set_iff found oldNot newNot).mpr storing)

theorem Tracks.store {count : U32} (tracks : Tracks calls addr entry sequential)
    (found : calls[number]? = some (.probe ok addr threshold (.counted count)))
    (reached : threshold ≤ count) :
    Tracks (calls.set number (.probe ok addr threshold .returned)) addr
      { entry with healthy := ok } sequential := by
  have idle : ∀ other, ¬(Call.probe ok addr threshold .returned).Clears addr other ∧
      ¬(Call.probe ok addr threshold .returned).Stores addr other :=
    Call.not_of_idle (Or.inr rfl) addr
  have oldNot : ∀ other, ¬(Call.probe ok addr threshold (.counted count)).Clears addr other := by
    rintro other ⟨_, same⟩
    cases same
  have sameCounter : ∀ other, counter other { entry with healthy := ok } = counter other entry := by
    intro other
    cases other <;> rfl
  constructor
  · intro other clearing
    rw [sameCounter]
    exact tracks.cleared other
      ((exists_mem_set_iff found (oldNot other) (idle other).1).mp clearing)
  · intro other quiet
    rw [sameCounter]
    apply tracks.counters
    intro clearing
    exact quiet ((exists_mem_set_iff found (oldNot other) (idle other).1).mpr clearing)
  · rintro other ⟨call, member, stores⟩
    rcases List.mem_or_eq_of_mem_set member with before | rfl
    · exact tracks.stored other ⟨call, before, stores⟩
    · exact absurd stores (idle other).2
  · intro _
    exact (tracks.stored ok
      ⟨_, List.mem_of_getElem? found, threshold, count, reached, rfl⟩).symm

theorem Tracks.skip {count : U32} (tracks : Tracks calls addr entry sequential)
    (found : calls[number]? = some (.probe ok addr threshold (.counted count)))
    (below : ¬threshold ≤ count) :
    Tracks (calls.set number (.probe ok addr threshold .returned)) addr entry sequential := by
  apply tracks.of_other found
  · intro other
    constructor
    · rintro ⟨_, same⟩
      cases same
    · rintro ⟨_, _, reached, same⟩
      cases same
      exact below reached
  · exact Call.not_of_idle (Or.inr rfl) addr

end

theorem entryFor_eq_none_iff {set : BackendSet} {addr : SocketAddr} :
    set.entryFor addr = none ↔ addr ∉ set.addresses := by
  simp [entryFor, addresses]

theorem entryFor_run_eq_none_iff {set shared : BackendSet} {operations : List Operation}
    (addresses : shared.addresses = set.addresses) {addr : SocketAddr} :
    shared.entryFor addr = none ↔ (set.run operations).entryFor addr = none := by
  rw [entryFor_eq_none_iff, entryFor_eq_none_iff, addresses, addresses_run]

theorem run_concat (set : BackendSet) (operations : List Operation) (operation : Operation) :
    set.run (operations ++ [operation]) = (set.run operations).step operation := by
  simp [run]

theorem Selects.entryFor {set next : BackendSet} {step after : SelectStep}
    (selects : Selects set step next after) (addr : SocketAddr) :
    next.entryFor addr = set.entryFor addr := by
  cases selects <;> rfl

theorem Selects.addresses {set next : BackendSet} {step after : SelectStep}
    (selects : Selects set step next after) : next.addresses = set.addresses := by
  cases selects <;> rfl

/-- The recorders under way on a backend record what this one does. -/
theorem Unmixed.alone {shared : Shared} (unmixed : Unmixed shared) {number : Nat} {ok : Bool}
    {addr : SocketAddr} {threshold : U32} {step : ProbeStep}
    (found : shared.calls[number]? = some (.probe ok addr threshold step))
    (active : step ≠ .returned) (other : Bool) :
    ((∃ call ∈ shared.calls, call.Clears addr other) → other = ok) ∧
      ((∃ call ∈ shared.calls, call.Stores addr other) → other = ok) := by
  have member := List.mem_of_getElem? found
  constructor
  · rintro ⟨_, isCall, _, rfl⟩
    exact unmixed _ _ _ _ _ _ _ isCall member (by simp) active
  · rintro ⟨_, isCall, _, _, _, rfl⟩
    exact unmixed _ _ _ _ _ _ _ isCall member (by simp) active

/-! ## Runs -/

section

variable {set next : BackendSet} {operations : List Operation} {shared : Shared}
  {number : Nat} {ok : Bool} {addr : SocketAddr} {threshold : U32} {step after : ProbeStep}

theorem Probes.entryFor_other {wanted : SocketAddr} (different : wanted ≠ addr)
    (probes : Probes set ok addr threshold step next after) :
    next.entryFor wanted = set.entryFor wanted := by
  cases probes with
  | unknown => rfl
  | clear => exact entryFor_modifyEntry_other set different (addr_clearOther ok)
  | count => exact entryFor_modifyEntry_other set different (addr_setCounter ok _)
  | store => exact entryFor_modifyEntry_other set different fun _ => rfl
  | skip => rfl

/-- A recorder whose call is recorded already, or not yet, takes a step that
changes its entry as the sequential one allows. -/
theorem Simulates.probe_quiet (simulates : Simulates set operations shared)
    (found : shared.calls[number]? = some (.probe ok addr threshold step))
    (probes : Probes shared.set ok addr threshold step next after)
    (same : Call.recorded? (.probe ok addr threshold after) =
      Call.recorded? (.probe ok addr threshold step))
    (tracks : ∀ entry sequential, next.entryFor addr = some entry →
      (set.run operations).entryFor addr = some sequential →
        Tracks (shared.calls.set number (.probe ok addr threshold after)) addr entry
          sequential) :
    Simulates set operations
      { set := next, calls := shared.calls.set number (.probe ok addr threshold after) } := by
  constructor
  · change operations.Perm ((shared.calls.set number _).filterMap Call.recorded?)
    rw [filterMap_set_same found same]
    exact simulates.recorded
  · exact probes.keeps.1.trans simulates.addresses
  · intro wanted entry sequential foundEntry foundSequential
    by_cases here : wanted = addr
    · subst here
      exact tracks entry sequential foundEntry foundSequential
    · change next.entryFor wanted = some entry at foundEntry
      rw [probes.entryFor_other here] at foundEntry
      exact (simulates.tracks wanted entry sequential foundEntry foundSequential).of_other
        found (Call.not_of_different here) (Call.not_of_different here)

/-- A recorder takes the step with which its call is recorded. -/
theorem Simulates.probe_records (simulates : Simulates set operations shared)
    (found : shared.calls[number]? = some (.probe ok addr threshold step))
    (probes : Probes shared.set ok addr threshold step next after)
    (before : Call.recorded? (.probe ok addr threshold step) = none)
    (now : Call.recorded? (.probe ok addr threshold after) =
      some (recording ok addr threshold))
    (tracks : ∀ entry sequential, next.entryFor addr = some entry →
      (set.run operations).entryFor addr = some sequential →
        Tracks (shared.calls.set number (.probe ok addr threshold after)) addr entry
          (recordedEntry ok threshold sequential)) :
    Simulates set (operations ++ [recording ok addr threshold])
      { set := next, calls := shared.calls.set number (.probe ok addr threshold after) } := by
  constructor
  · exact (simulates.recorded.append_right _).trans (filterMap_set_perm found before now).symm
  · exact probes.keeps.1.trans simulates.addresses
  · intro wanted entry sequential foundEntry foundSequential
    rw [run_concat, step_recording] at foundSequential
    by_cases here : wanted = addr
    · subst here
      rw [entryFor_modifyEntry _ _ (addr_recordedEntry ok threshold),
        Option.map_eq_some_iff] at foundSequential
      obtain ⟨earlier, foundEarlier, rfl⟩ := foundSequential
      exact tracks entry earlier foundEntry foundEarlier
    · change next.entryFor wanted = some entry at foundEntry
      rw [probes.entryFor_other here] at foundEntry
      rw [entryFor_modifyEntry_other _ here (addr_recordedEntry ok threshold)]
        at foundSequential
      exact (simulates.tracks wanted entry sequential foundEntry foundSequential).of_other
        found (Call.not_of_different here) (Call.not_of_different here)

theorem Simulates.probe (simulates : Simulates set operations shared)
    (unmixed : Unmixed shared)
    (found : shared.calls[number]? = some (.probe ok addr threshold step))
    (probes : Probes shared.set ok addr threshold step next after) :
    ∃ operations, Simulates set operations
      { set := next, calls := shared.calls.set number (.probe ok addr threshold after) } := by
  cases probes with
  | unknown unknown =>
      refine ⟨_, simulates.probe_records found (.unknown unknown) rfl rfl ?_⟩
      intro entry sequential foundEntry
      cases unknown.symm.trans foundEntry
  | @clear first foundFirst =>
      have alone := unmixed.alone found (by simp)
      refine ⟨_, simulates.probe_quiet found (.clear foundFirst) rfl ?_⟩
      intro entry sequential foundEntry foundSequential
      rw [entryFor_modifyEntry _ _ (addr_clearOther ok), foundFirst] at foundEntry
      obtain rfl := Option.some.inj foundEntry
      exact (simulates.tracks addr first sequential foundFirst foundSequential).clear found
        fun other => (alone other).1
  | @count first foundFirst =>
      have alone := unmixed.alone found (by simp)
      refine ⟨_, simulates.probe_records found (.count foundFirst) rfl rfl ?_⟩
      intro entry sequential foundEntry foundSequential
      rw [entryFor_modifyEntry _ _ (addr_setCounter ok _), foundFirst] at foundEntry
      obtain rfl := Option.some.inj foundEntry
      exact (simulates.tracks addr first sequential foundFirst foundSequential).count found
        (fun other => (alone other).1) fun other => (alone other).2
  | store reached =>
      refine ⟨_, simulates.probe_quiet found (.store reached) rfl ?_⟩
      intro entry sequential foundEntry foundSequential
      have keeps : ∀ entry : BackendEntry,
          ({ entry with healthy := ok } : BackendEntry).addr = entry.addr := fun _ => rfl
      rw [entryFor_modifyEntry _ _ keeps, Option.map_eq_some_iff] at foundEntry
      obtain ⟨first, foundFirst, rfl⟩ := foundEntry
      exact (simulates.tracks addr first sequential foundFirst foundSequential).store found
        reached
  | skip below =>
      refine ⟨_, simulates.probe_quiet found (.skip below) rfl ?_⟩
      intro entry sequential foundEntry foundSequential
      exact (simulates.tracks addr entry sequential foundEntry foundSequential).skip found below

theorem Call.recorded?_entered {call : Call} (entered : call.entered = true) :
    call.recorded? = none := by
  cases call with
  | select step => rfl
  | probe ok addr threshold step =>
      simp only [Call.entered, decide_eq_true_eq] at entered
      subst entered
      rfl

theorem Call.not_of_entered {call : Call} (entered : call.entered = true)
    (addr : SocketAddr) (ok : Bool) : ¬call.Clears addr ok ∧ ¬call.Stores addr ok := by
  cases call with
  | select step => exact Call.not_of_select step addr ok
  | probe other wanted threshold step =>
      simp only [Call.entered, decide_eq_true_eq] at entered
      exact Call.not_of_idle (Or.inl entered) addr ok

theorem simulates_step {action : CallAction} {following : Shared}
    (simulates : Simulates set operations shared) (unmixed : Unmixed shared)
    (taken : shared.step action = some following) :
    ∃ operations, Simulates set operations following := by
  rcases Shared.step_cases taken with ⟨call, entered, rfl⟩ |
    ⟨number, step, after, selected, found, selects, rfl⟩ |
    ⟨number, ok, addr, threshold, step, after, recorded, found, probes, rfl⟩
  · refine ⟨operations, ?_, simulates.addresses, ?_⟩
    · change operations.Perm ((shared.calls ++ [call]).filterMap Call.recorded?)
      simpa [Call.recorded?_entered entered] using simulates.recorded
    · intro addr entry sequential foundEntry foundSequential
      have quiet := Call.not_of_entered entered addr
      apply (simulates.tracks addr entry sequential foundEntry foundSequential).of_same
      · intro ok
        simp [(quiet ok).1]
      · intro ok
        simp [(quiet ok).2]
  · refine ⟨operations, ?_, selects.addresses.trans simulates.addresses, ?_⟩
    · change operations.Perm ((shared.calls.set number _).filterMap Call.recorded?)
      rw [filterMap_set_same found (by rfl)]
      exact simulates.recorded
    · intro addr entry sequential foundEntry foundSequential
      change selected.entryFor addr = some entry at foundEntry
      rw [selects.entryFor] at foundEntry
      exact (simulates.tracks addr entry sequential foundEntry foundSequential).of_other found
        (Call.not_of_select step addr) (Call.not_of_select after addr)
  · exact simulates.probe unmixed found probes

theorem simulates_unused (set : BackendSet) : Simulates set [] (unused set) := by
  refine ⟨List.Perm.nil, rfl, ?_⟩
  intro addr entry sequential foundEntry foundSequential
  obtain rfl := Option.some.inj (foundEntry.symm.trans foundSequential)
  constructor
  · rintro ok ⟨_, member, _⟩
    cases member
  · intro _ _
    rfl
  · rintro ok ⟨_, member, _⟩
    cases member
  · intro _
    rfl

theorem simulates_run {actions : List CallAction} {final : Shared}
    (run : Shared.machine.run (unused set) actions = some final)
    (unmixed : Shared.machine.Throughout (unused set) actions Unmixed) :
    ∃ operations, Simulates set operations final :=
  Machine.Throughout.run_induction
    (fun _ shared => ∃ operations, Simulates set operations shared) unmixed
    ⟨[], simulates_unused set⟩
    (fun _ _ _ _ _ _ before _ ⟨_, simulates⟩ taken => simulates_step simulates before taken) run

end

/-! ## When recording is linearizable -/

/-- The call as a sequential one. -/
def Call.operation? : Call → Option Operation
  | .select _ => none
  | .probe ok addr threshold _ => some (recording ok addr threshold)

/-- All recorders have returned. -/
def Settled (shared : Shared) : Prop :=
  ∀ ok addr threshold step, .probe ok addr threshold step ∈ shared.calls → step = .returned

/-- The backends are as after some sequential order of the same recorders, and
no backend that was recorded has both counters above zero. -/
structure Linearized (set : BackendSet) (final : Shared) : Prop where
  ordered : ∃ operations, operations.Perm (final.calls.filterMap Call.operation?) ∧
    ∀ addr, final.set.entryFor addr = (set.run operations).entryFor addr
  oneCounter : ∀ ok addr threshold step entry,
    .probe ok addr threshold step ∈ final.calls → final.set.entryFor addr = some entry →
      entry.consecutiveFailures = 0 ∨ entry.consecutiveSuccesses = 0

theorem Settled.recorded {shared : Shared} (settled : Settled shared) :
    shared.calls.filterMap Call.recorded? = shared.calls.filterMap Call.operation? := by
  apply List.filterMap_congr
  intro call member
  cases call with
  | select step => rfl
  | probe ok addr threshold step =>
      obtain rfl := settled ok addr threshold step member
      rfl

/-- When all recorders have returned, nothing is left that tracking allows. -/
theorem Simulates.entryFor {set : BackendSet} {operations : List Operation} {final : Shared}
    (simulates : Simulates set operations final) (settled : Settled final)
    (addr : SocketAddr) :
    final.set.entryFor addr = (set.run operations).entryFor addr := by
  have sameNone : final.set.entryFor addr = none ↔
      (set.run operations).entryFor addr = none :=
    entryFor_run_eq_none_iff simulates.addresses
  cases found : final.set.entryFor addr with
  | none => exact (sameNone.mp found).symm
  | some entry =>
      cases foundSequential : (set.run operations).entryFor addr with
      | none => cases found.symm.trans (sameNone.mpr foundSequential)
      | some sequential =>
          have tracks := simulates.tracks addr entry sequential found foundSequential
          have noClears : ∀ ok, ¬∃ call ∈ final.calls, call.Clears addr ok := by
            rintro ok ⟨_, member, _, rfl⟩
            cases settled _ _ _ _ member
          have noStores : ∀ ok, ¬∃ call ∈ final.calls, call.Stores addr ok := by
            rintro ok ⟨_, member, _, _, _, rfl⟩
            cases settled _ _ _ _ member
          have sameAddr : entry.addr = sequential.addr := by
            have here := List.find?_some found
            have there := List.find?_some foundSequential
            rw [decide_eq_true_eq] at here there
            exact here.trans there.symm
          congr 1
          apply entry_ext sameAddr _ (tracks.healthy noStores)
          intro ok
          have same := tracks.counters (!ok) (noClears _)
          rwa [Bool.not_not] at same

/-- One of the two counters is zero. -/
def OneCounter (set : BackendSet) (addr : SocketAddr) : Prop :=
  ∀ entry, set.entryFor addr = some entry →
    entry.consecutiveFailures = 0 ∨ entry.consecutiveSuccesses = 0

theorem oneCounter_recording (set : BackendSet) (ok : Bool) (addr : SocketAddr)
    (threshold : U32) : (set.step (recording ok addr threshold)).OneCounter addr := by
  intro entry found
  rw [step_recording, entryFor_modifyEntry _ _ (addr_recordedEntry ok threshold),
    Option.map_eq_some_iff] at found
  obtain ⟨earlier, _, rfl⟩ := found
  have zero := (counter_recordedEntry ok threshold earlier).2
  cases ok with
  | true => exact Or.inl zero
  | false => exact Or.inr zero

theorem oneCounter_step {set : BackendSet} {addr : SocketAddr} (one : set.OneCounter addr)
    (operation : Operation) : (set.step operation).OneCounter addr := by
  have others : ∀ ok wanted threshold,
      (set.step (recording ok wanted threshold)).OneCounter addr := by
    intro ok wanted threshold
    by_cases here : addr = wanted
    · subst here
      exact oneCounter_recording set ok addr threshold
    · intro entry found
      rw [step_recording,
        entryFor_modifyEntry_other set here (addr_recordedEntry ok threshold)] at found
      exact one entry found
  cases operation with
  | success wanted threshold => exact others true wanted threshold
  | failure wanted threshold => exact others false wanted threshold
  | select =>
      intro entry found
      apply one entry
      rw [BackendSet.entryFor, ← entries_selectNext]
      exact found

/-- Sequential recorders leave one counter at zero. -/
theorem oneCounter_run {ok : Bool} {addr : SocketAddr} {threshold : U32}
    {operations : List Operation} (set : BackendSet)
    (member : recording ok addr threshold ∈ operations) :
    (set.run operations).OneCounter addr := by
  induction operations using List.reverseRecOn with
  | nil => cases member
  | append_singleton operations operation ih =>
      rw [run_concat]
      rcases List.mem_append.mp member with before | last
      · exact oneCounter_step (ih before) operation
      · rw [← List.mem_singleton.mp last]
        exact oneCounter_recording _ ok addr threshold

/-- Probe recording is linearizable in every run in which the recorders that
overlap on a backend record the same outcome. -/
theorem probes_linearized (set : BackendSet) {actions : List CallAction} {final : Shared}
    (run : Shared.machine.run (unused set) actions = some final)
    (unmixed : Shared.machine.Throughout (unused set) actions Unmixed)
    (settled : Settled final) : Linearized set final := by
  obtain ⟨operations, simulates⟩ := simulates_run run unmixed
  have recorded := simulates.recorded
  rw [settled.recorded] at recorded
  constructor
  · exact ⟨operations, recorded, simulates.entryFor settled⟩
  · intro ok addr threshold step entry member found
    have inOrder : recording ok addr threshold ∈ operations := by
      apply recorded.mem_iff.mpr
      exact List.mem_filterMap.mpr ⟨_, member, rfl⟩
    apply oneCounter_run set inOrder entry
    rw [← simulates.entryFor settled]
    exact found

/-- Two successes for one backend that overlap. -/
def recoveries : List CallAction :=
  [.call (.probe true (.v4 localhost 9000) 1 .entered),
    .call (.probe true (.v4 localhost 9000) 2 .entered),
    .advance 0, .advance 1, .advance 1, .advance 0, .advance 0, .advance 1]

def recovered : Shared where
  set := (((new pair.backends).recordProbeSuccess (.v4 localhost 9000) 2).recordProbeSuccess
    (.v4 localhost 9000) 1)
  calls := [.probe true (.v4 localhost 9000) 1 .returned,
    .probe true (.v4 localhost 9000) 2 .returned]

theorem probes_linearized_recoveries : Linearized (new pair.backends) recovered := by
  have successes : ∀ before ∈ recoveries.inits,
      ∀ middle ∈ Shared.machine.run (unused (new pair.backends)) before,
        ∀ call ∈ middle.calls, ∀ operation ∈ call.operation?,
          operation = .success (.v4 localhost 9000) 1 ∨
            operation = .success (.v4 localhost 9000) 2 := by
    decide +kernel
  have unmixed : Shared.machine.Throughout (unused (new pair.backends)) recoveries Unmixed := by
    intro before after middle split reached
    have isPrefix : before ∈ recoveries.inits :=
      (List.mem_inits before recoveries).mpr ⟨after, split.symm⟩
    have isSuccess : ∀ ok addr threshold step,
        .probe ok addr threshold step ∈ middle.calls → ok = true := by
      intro ok addr threshold step member
      rcases successes before isPrefix middle reached _ member _ rfl with one | two
      · cases ok with
        | true => rfl
        | false => cases one
      · cases ok with
        | true => rfl
        | false => cases two
    intro addr ok other _ _ _ _ first second _ _
    rw [isSuccess _ _ _ _ first, isSuccess _ _ _ _ second]
  have settled : Settled recovered := by
    intro ok addr threshold step member
    simp only [recovered, List.mem_cons, List.not_mem_nil, or_false, Call.probe.injEq] at member
    rcases member with ⟨_, _, _, returned⟩ | ⟨_, _, _, returned⟩
    · exact returned
    · exact returned
  have run : Shared.machine.run (unused (new pair.backends)) recoveries = some recovered := by
    decide +kernel
  exact probes_linearized (new pair.backends) run unmixed settled

/-- A success and a failure for one backend, step by step in turn. -/
def crossing : List CallAction :=
  [.call (.probe true (.v4 localhost 9000) 2 .entered),
    .call (.probe false (.v4 localhost 9000) 2 .entered),
    .advance 0, .advance 1, .advance 0, .advance 1, .advance 0, .advance 1]

def crossed : Shared where
  set :=
    { entries := ⟨[⟨.v4 localhost 9000, true, 1, 1⟩, ⟨.v4 localhost 9001, true, 0, 0⟩],
        by decide⟩
      nextIndex := 0 }
  calls := [.probe true (.v4 localhost 9000) 2 .returned,
    .probe false (.v4 localhost 9000) 2 .returned]

/-- Both counters are one: no order of the two calls leads there. -/
theorem crossed_not_linearized :
    Shared.machine.run (unused (new pair.backends)) crossing = some crossed ∧
      Settled crossed ∧
      crossed.set.entryFor (.v4 localhost 9000) = some ⟨.v4 localhost 9000, true, 1, 1⟩ ∧
      (∀ operations, operations.Perm (crossed.calls.filterMap Call.operation?) →
        crossed.set.entryFor (.v4 localhost 9000) ≠
          ((new pair.backends).run operations).entryFor (.v4 localhost 9000)) ∧
      ¬Linearized (new pair.backends) crossed := by
  have found : crossed.set.entryFor (.v4 localhost 9000) =
      some ⟨.v4 localhost 9000, true, 1, 1⟩ := by
    decide +kernel
  have unordered : ∀ operations,
      operations.Perm (crossed.calls.filterMap Call.operation?) →
        crossed.set.entryFor (.v4 localhost 9000) ≠
          ((new pair.backends).run operations).entryFor (.v4 localhost 9000) := by
    intro operations order same
    have member : recording true (.v4 localhost 9000) 2 ∈ operations :=
      order.mem_iff.mpr (by decide +kernel)
    have zero := oneCounter_run (new pair.backends) member _ (same.symm.trans found)
    exact absurd zero (by decide)
  refine ⟨by decide +kernel, ?_, found, unordered, ?_⟩
  · intro ok addr threshold step member
    simp only [crossed, List.mem_cons, List.not_mem_nil, or_false, Call.probe.injEq] at member
    rcases member with ⟨_, _, _, returned⟩ | ⟨_, _, _, returned⟩
    · exact returned
    · exact returned
  · rintro ⟨⟨operations, order, same⟩, _⟩
    exact unordered operations order (same _)

end BackendSet

end Mzani
