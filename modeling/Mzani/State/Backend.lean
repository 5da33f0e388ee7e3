import Mzani.Config
import Mzani.Support.CyclicScan
import Mzani.Support.FirstMatch

/-!
# Backends

The backend registry: health by address, selection by position.  The two views
agree in every run exactly if the configured addresses are pairwise distinct.
-/

namespace Mzani

open Support

structure BackendEntry where
  addr : SocketAddr
  healthy : Bool
  consecutiveFailures : U32
  consecutiveSuccesses : U32
  deriving DecidableEq

structure BackendSet where
  entries : Vec BackendEntry
  nextIndex : Usize
  deriving DecidableEq

namespace BackendSet

/-- A set with all backends healthy. -/
def new (addrs : Vec SocketAddr) : BackendSet where
  entries :=
    ⟨addrs.val.map fun addr =>
        { addr, healthy := true, consecutiveFailures := 0, consecutiveSuccesses := 0 },
      by simpa using addrs.property⟩
  nextIndex := 0

def addresses (set : BackendSet) : List SocketAddr :=
  set.entries.val.map (·.addr)

/-- Number of backends marked healthy. -/
def healthyCount (set : BackendSet) : Nat :=
  set.entries.val.countP (·.healthy)

/-- Selects the next healthy backend.  `start + offset` wraps, as in a release
build; a build with overflow checks panics there. -/
def selectNext (set : BackendSet) : MzaniResult SocketAddr × BackendSet :=
  if set.entries.val.length = 0 then (.error .emptyServerList, set)
  else
    let start := set.nextIndex
    let advanced := { set with nextIndex := start + 1 }
    match cyclicFind usizeLimit (·.healthy) set.entries.val start with
    | some entry => (.ok entry.addr, advanced)
    | none => (.error .noHealthyBackend, advanced)

def entryFor (set : BackendSet) (addr : SocketAddr) : Option BackendEntry :=
  set.entries.val.find? (·.addr = addr)

/-- Change the entry that `entry_for` finds. -/
def modifyEntry (set : BackendSet) (addr : SocketAddr)
    (change : BackendEntry → BackendEntry) : BackendSet :=
  { set with
    entries := ⟨modifyFirst (·.addr = addr) change set.entries.val,
      by simpa using set.entries.property⟩ }

/-- What a successful probe does to the entry. -/
def countSuccess (recoveryThreshold : U32) (entry : BackendEntry) : BackendEntry :=
  let successes := saturatingSucc entry.consecutiveSuccesses
  { entry with
    consecutiveFailures := 0
    consecutiveSuccesses := successes
    healthy := if recoveryThreshold ≤ successes then true else entry.healthy }

/-- Records a successful health probe. -/
def recordProbeSuccess (set : BackendSet) (addr : SocketAddr)
    (recoveryThreshold : U32) : BackendSet :=
  set.modifyEntry addr (countSuccess recoveryThreshold)

/-- What a failed probe does to the entry. -/
def countFailure (failureThreshold : U32) (entry : BackendEntry) : BackendEntry :=
  let failures := saturatingSucc entry.consecutiveFailures
  { entry with
    consecutiveSuccesses := 0
    consecutiveFailures := failures
    healthy := if failureThreshold ≤ failures then false else entry.healthy }

theorem addr_countFailure (failureThreshold : U32) (entry : BackendEntry) :
    (countFailure failureThreshold entry).addr = entry.addr := rfl

/-- Records a failed health probe. -/
def recordProbeFailure (set : BackendSet) (addr : SocketAddr)
    (failureThreshold : U32) : BackendSet :=
  set.modifyEntry addr (countFailure failureThreshold)

def isHealthy (set : BackendSet) (addr : SocketAddr) : Bool :=
  (set.entryFor addr).any (·.healthy)

/-! ## Runs -/

inductive Operation where
  | success (addr : SocketAddr) (recoveryThreshold : U32)
  | failure (addr : SocketAddr) (failureThreshold : U32)
  | select
  deriving DecidableEq

/-- The thresholds that configurations allow. -/
def Operation.Admissible : Operation → Prop
  | .success _ threshold => threshold ≠ 0
  | .failure _ threshold => threshold ≠ 0
  | .select => True

instance : DecidablePred Operation.Admissible
  | .success _ threshold => inferInstanceAs (Decidable (threshold ≠ 0))
  | .failure _ threshold => inferInstanceAs (Decidable (threshold ≠ 0))
  | .select => inferInstanceAs (Decidable True)

def step (set : BackendSet) : Operation → BackendSet
  | .success addr threshold => set.recordProbeSuccess addr threshold
  | .failure addr threshold => set.recordProbeFailure addr threshold
  | .select => set.selectNext.2

def run (set : BackendSet) (operations : List Operation) : BackendSet :=
  operations.foldl step set

/-- A round of tickets from here does not wrap. -/
def NoWrap (set : BackendSet) : Prop :=
  set.nextIndex + set.entries.val.length ≤ usizeLimit

instance : DecidablePred NoWrap := fun set =>
  inferInstanceAs (Decidable (set.nextIndex + set.entries.val.length ≤ usizeLimit))

/-- Selection returns backends that count as healthy, and one if there is
any. -/
structure RespectsHealth (set : BackendSet) : Prop where
  selected : ∀ addr, set.selectNext.1 = .ok addr → set.isHealthy addr = true
  available : (∃ addr ∈ set.addresses, set.isHealthy addr = true) →
    set.selectNext.1 ≠ .error .noHealthyBackend

@[simp] theorem addresses_modifyEntry (set : BackendSet) (addr : SocketAddr)
    {change : BackendEntry → BackendEntry}
    (keeps : ∀ entry, (change entry).addr = entry.addr) :
    (set.modifyEntry addr change).addresses = set.addresses :=
  map_modifyFirst keeps set.entries.val

/-- The result of a selection, and the set after it. -/
theorem selectNext_eq {set : BackendSet} (nonempty : set.entries.val.length ≠ 0) :
    set.selectNext =
      ((cyclicFind usizeLimit (·.healthy) set.entries.val set.nextIndex).elim
        (.error .noHealthyBackend) (fun entry => .ok entry.addr),
        { set with nextIndex := set.nextIndex + 1 }) := by
  rw [selectNext, if_neg nonempty]
  dsimp only
  cases cyclicFind usizeLimit (·.healthy) set.entries.val set.nextIndex <;> rfl

theorem entries_selectNext (set : BackendSet) : set.selectNext.2.entries = set.entries := by
  by_cases empty : set.entries.val.length = 0
  · rw [selectNext, if_pos empty]
  · rw [selectNext_eq empty]

/-- No operation changes the configured addresses. -/
theorem addresses_step (set : BackendSet) (operation : Operation) :
    (set.step operation).addresses = set.addresses := by
  cases operation with
  | success addr threshold => exact addresses_modifyEntry set addr fun _ => rfl
  | failure addr threshold => exact addresses_modifyEntry set addr fun _ => rfl
  | select =>
      change set.selectNext.2.entries.val.map (·.addr) = _
      rw [entries_selectNext]
      rfl

theorem addresses_run (set : BackendSet) (operations : List Operation) :
    (set.run operations).addresses = set.addresses := by
  induction operations generalizing set with
  | nil => rfl
  | cons operation operations induction =>
      rw [run, List.foldl_cons, ← run, induction, addresses_step]

theorem addresses_new (addrs : Vec SocketAddr) : (new addrs).addresses = addrs.val := by
  rw [addresses, new, List.map_map]
  exact List.map_id addrs.val

theorem entryFor_modifyEntry (set : BackendSet) (addr : SocketAddr)
    {change : BackendEntry → BackendEntry}
    (keeps : ∀ entry, (change entry).addr = entry.addr) :
    (set.modifyEntry addr change).entryFor addr = (set.entryFor addr).map change :=
  find?_modifyFirst (fun entry => by rw [keeps]) set.entries.val

theorem entryFor_modifyEntry_other (set : BackendSet) {addr other : SocketAddr}
    (different : other ≠ addr) {change : BackendEntry → BackendEntry}
    (keeps : ∀ entry, (change entry).addr = entry.addr) :
    (set.modifyEntry addr change).entryFor other = set.entryFor other := by
  apply find?_modifyFirst_other
  · intro entry
    rw [keeps]
  · intro entry found
    rw [decide_eq_true_eq] at found
    rw [decide_eq_false_iff_not, found]
    exact different.symm

/-! ## Health and selection -/

theorem isHealthy_iff {set : BackendSet} {addr : SocketAddr} :
    set.isHealthy addr = true ↔
      ∃ entry, set.entryFor addr = some entry ∧ entry.healthy = true := by
  cases found : set.entryFor addr with
  | none => simp [isHealthy, found]
  | some entry => simp [isHealthy, found]

theorem selectNext_ok {set : BackendSet} {addr : SocketAddr}
    (selected : set.selectNext.1 = .ok addr) :
    ∃ entry ∈ set.entries.val, entry.healthy = true ∧ entry.addr = addr := by
  by_cases empty : set.entries.val.length = 0
  · rw [selectNext, if_pos empty] at selected
    cases selected
  · rw [selectNext_eq empty] at selected
    cases found : cyclicFind usizeLimit (·.healthy) set.entries.val set.nextIndex with
    | none => simp [found] at selected
    | some entry =>
        obtain ⟨member, healthy⟩ := cyclicFind_some found
        simp only [found, Option.elim_some, Except.ok.injEq] at selected
        exact ⟨entry, member, healthy, selected⟩

theorem selectNext_ne_error {set : BackendSet} {entry : BackendEntry}
    (member : entry ∈ set.entries.val) (healthy : entry.healthy = true)
    (noWrap : set.NoWrap) : ∃ addr, set.selectNext.1 = .ok addr := by
  have nonempty : set.entries.val.length ≠ 0 :=
    (List.length_pos_of_mem member).ne'
  obtain ⟨found, scan⟩ := Option.isSome_iff_exists.mp
    (isSome_cyclicFind member healthy noWrap)
  exact ⟨found.addr, by rw [selectNext_eq nonempty, scan]; rfl⟩

/-- With distinct addresses, the entry of an address is its only one. -/
theorem entryFor_of_mem {set : BackendSet} (distinct : set.addresses.Nodup)
    {entry : BackendEntry} (member : entry ∈ set.entries.val) :
    set.entryFor entry.addr = some entry := by
  rw [entryFor, List.find?_eq_some_iff_getElem]
  obtain ⟨index, inside, rfl⟩ := List.mem_iff_getElem.mp member
  refine ⟨by simp, index, inside, rfl, fun other before => ?_⟩
  have otherInside : other < set.entries.val.length := Nat.lt_trans before inside
  rw [Bool.not_eq_true', decide_eq_false_iff_not]
  intro same
  have injective := List.pairwise_iff_getElem.mp distinct other index
    (by simpa [addresses] using otherInside) (by simpa [addresses] using inside) before
  simp only [addresses, List.getElem_map] at injective
  exact injective same

theorem respectsHealth_of_distinct {set : BackendSet} (distinct : set.addresses.Nodup)
    (noWrap : set.NoWrap) : RespectsHealth set := by
  constructor
  · intro addr selected
    obtain ⟨entry, member, healthy, rfl⟩ := selectNext_ok selected
    exact isHealthy_iff.mpr ⟨entry, entryFor_of_mem distinct member, healthy⟩
  · rintro ⟨addr, _, healthy⟩ failed
    obtain ⟨entry, found, entryHealthy⟩ := isHealthy_iff.mp healthy
    obtain ⟨selected, answer⟩ := selectNext_ne_error
      (List.mem_of_find?_eq_some found) entryHealthy noWrap
    rw [answer] at failed
    cases failed

/-! ## Repeated addresses -/

/-- One failure at the lowest threshold takes an address down. -/
theorem isHealthy_recordProbeFailure (set : BackendSet) (addr : SocketAddr) :
    (set.recordProbeFailure addr 1).isHealthy addr = false := by
  rw [isHealthy, recordProbeFailure, entryFor_modifyEntry set addr (addr_countFailure 1)]
  cases set.entryFor addr with
  | none => rfl
  | some entry =>
      have counted : (1 : U32) ≤ saturatingSucc entry.consecutiveFailures :=
        one_le_saturatingSucc entry.consecutiveFailures
      simp [countFailure, counted]

/-- A failure takes no address up. -/
theorem isHealthy_of_recordProbeFailure {set : BackendSet} {addr other : SocketAddr}
    {threshold : U32}
    (healthy : (set.recordProbeFailure addr threshold).isHealthy other = true) :
    set.isHealthy other = true := by
  by_cases same : other = addr
  · subst other
    rw [isHealthy, recordProbeFailure,
      entryFor_modifyEntry set addr (addr_countFailure threshold)] at healthy
    rw [isHealthy]
    cases found : set.entryFor addr with
    | none => simp [found] at healthy
    | some entry =>
        simp only [found, Option.map_some, Option.any_some, countFailure] at healthy ⊢
        split at healthy
        · cases healthy
        · exact healthy
  · rwa [isHealthy, recordProbeFailure,
      entryFor_modifyEntry_other set same (addr_countFailure threshold)] at healthy

/-- After one failure each, no address counts as healthy. -/
theorem isHealthy_run_failures {addr : SocketAddr} :
    ∀ {addrs : List SocketAddr} (set : BackendSet), addr ∈ addrs →
      (set.run (addrs.map (.failure · 1))).isHealthy addr = false := by
  have stays : ∀ (addrs : List SocketAddr) (set : BackendSet),
      set.isHealthy addr = false →
        (set.run (addrs.map (.failure · 1))).isHealthy addr = false := by
    intro addrs
    induction addrs with
    | nil => exact fun set down => down
    | cons first addrs induction =>
        intro set down
        apply induction
        rw [Bool.eq_false_iff]
        intro up
        rw [isHealthy_of_recordProbeFailure up] at down
        cases down
  intro addrs
  induction addrs with
  | nil => simp
  | cons first addrs induction =>
      intro set member
      rcases List.mem_cons.mp member with rfl | later
      · exact stays addrs _ (isHealthy_recordProbeFailure set addr)
      · exact induction _ later

/-- A healthy entry behind another one with its address. -/
def Shielded (set : BackendSet) : Prop :=
  ∃ before entry after, set.entries.val = before ++ entry :: after ∧
    entry.healthy = true ∧ entry.addr ∈ before.map (·.addr)

/-- No operation by address reaches a shielded entry. -/
theorem Shielded.recordProbeFailure {set : BackendSet} (shielded : set.Shielded)
    (addr : SocketAddr) (threshold : U32) :
    (set.recordProbeFailure addr threshold).Shielded := by
  obtain ⟨before, entry, after, split, healthy, repeated⟩ := shielded
  let matching : BackendEntry → Bool := (·.addr = addr)
  have hidden : matching entry = true → ∃ first ∈ before, matching first = true := by
    intro same
    obtain ⟨first, member, sameAddr⟩ := List.mem_map.mp repeated
    exact ⟨first, member, by simpa [matching, sameAddr] using same⟩
  obtain ⟨before', after', modified, shape⟩ :=
    modifyFirst_shielded (countFailure threshold) after hidden
  refine ⟨before', entry, after', ?_, healthy, ?_⟩
  · change modifyFirst matching (countFailure threshold) set.entries.val = _
    rw [split, modified]
  · rcases shape with rfl | rfl
    · exact repeated
    · rwa [map_modifyFirst (addr_countFailure threshold)]

theorem Shielded.run_failures {set : BackendSet} (shielded : set.Shielded)
    (addrs : List SocketAddr) : (set.run (addrs.map (.failure · 1))).Shielded := by
  induction addrs generalizing set with
  | nil => exact shielded
  | cons first addrs induction =>
      exact induction (shielded.recordProbeFailure first 1)

theorem nextIndex_run_failures (set : BackendSet) (addrs : List SocketAddr) :
    (set.run (addrs.map (.failure · 1))).nextIndex = set.nextIndex := by
  induction addrs generalizing set with
  | nil => rfl
  | cons first addrs induction => exact induction _

theorem shielded_new {addrs : Vec SocketAddr} (repeated : ¬addrs.val.Nodup) :
    (new addrs).Shielded := by
  obtain ⟨before, addr, after, split, member⟩ := exists_repeated repeated
  let toEntry : SocketAddr → BackendEntry := fun addr =>
    { addr, healthy := true, consecutiveFailures := 0, consecutiveSuccesses := 0 }
  refine ⟨before.map toEntry, toEntry addr, after.map toEntry, ?_, rfl, ?_⟩
  · change addrs.val.map toEntry = _
    rw [split, List.map_append, List.map_cons]
  · rw [List.map_map]
    exact List.mem_map.mpr ⟨addr, member, rfl⟩

/-- Health is respected in every run without wrapping tickets exactly if no
address is configured twice. -/
theorem respectsHealth_iff (addrs : Vec SocketAddr) :
    (∀ operations, (∀ operation ∈ operations, operation.Admissible) →
      ((new addrs).run operations).NoWrap →
        RespectsHealth ((new addrs).run operations)) ↔
      addrs.val.Nodup := by
  constructor
  · intro respects
    by_contra repeated
    have admissible : ∀ operation ∈ addrs.val.map (Operation.failure · 1),
        operation.Admissible := by
      intro operation member
      obtain ⟨addr, _, rfl⟩ := List.mem_map.mp member
      change (1 : U32) ≠ 0
      decide
    have shielded := (shielded_new repeated).run_failures addrs.val
    have sameAddresses : ((new addrs).run
        (addrs.val.map (Operation.failure · 1))).addresses = addrs.val :=
      (addresses_run _ _).trans (addresses_new _)
    have noWrap : ((new addrs).run
        (addrs.val.map (Operation.failure · 1))).NoWrap := by
      have length := congrArg List.length sameAddresses
      have bound : addrs.val.length < 2 ^ 63 := addrs.property
      have limit : usizeLimit = 2 ^ 64 := rfl
      rw [addresses, List.length_map] at length
      rw [NoWrap, nextIndex_run_failures, length]
      change 0 + addrs.val.length ≤ usizeLimit
      omega
    obtain ⟨before, entry, after, split, healthy, _⟩ := shielded
    obtain ⟨addr, selected⟩ := selectNext_ne_error (by rw [split]; simp) healthy noWrap
    have up := (respects _ admissible noWrap).selected addr selected
    have configured : addr ∈ addrs.val := by
      obtain ⟨found, member, _, rfl⟩ := selectNext_ok selected
      rw [← sameAddresses]
      exact List.mem_map.mpr ⟨found, member, rfl⟩
    rw [isHealthy_run_failures _ configured] at up
    cases up
  · intro distinct operations _ noWrap
    apply respectsHealth_of_distinct _ noWrap
    rwa [addresses_run, addresses_new]

/-- A configuration with one backend given twice. -/
def twice : BalancerConfig :=
  { backends := ⟨[.v4 localhost 9000, .v4 localhost 9000], by decide⟩ }

/-- A failed probe takes the address down, and it is selected all the same. -/
theorem twice_selected :
    twice.validate = .ok () ∧
      let set := (new twice.backends).run [.failure (.v4 localhost 9000) 1]
      set.selectNext.1 = .ok (.v4 localhost 9000) ∧
        set.isHealthy (.v4 localhost 9000) = false := by
  decide +kernel

/-- A configuration with two backends. -/
def pair : BalancerConfig :=
  { backends := ⟨[.v4 localhost 9000, .v4 localhost 9001], by decide⟩ }

theorem respectsHealth_pair :
    RespectsHealth ((new pair.backends).run [.failure (.v4 localhost 9000) 1, .select]) :=
  (respectsHealth_iff pair.backends).mpr (by decide) _ (by decide) (by decide)

end BackendSet

end Mzani
