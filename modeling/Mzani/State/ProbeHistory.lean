import Mzani.State.Health

/-!
# Routing by the history of the probes

The status of every backend is that of the outcomes of its probes, and a backend
that is listed before keeps the first status for ever.  So the history of the
probes and the number of selections determine the next one.
-/

namespace Mzani

open Support

namespace BackendSet

/-- A backend with these outcomes is up: the failures have not reached their
threshold, or the successes have since. -/
def Up (config : HealthConfig) (history : List Bool) : Prop :=
  ¬LatestIs (Failed config) (Recovered config) history

/-- The backend at the position is up after the probes.  They count for the first
one with their address. -/
def UpAt (config : HealthConfig) (addrs : List SocketAddr) (probes : List Probe)
    (index : Nat) : Prop :=
  ∀ addr, addrs[index]? = some addr → addr ∉ addrs.take index →
    Up config (outcomes addr probes)

/-- The result of a selection with the ticket: the first backend from there on,
going round once, that is up. -/
def Routed (up : Nat → Prop) (addrs : List SocketAddr) (ticket : Nat) :
    MzaniResult SocketAddr → Prop
  | .ok addr =>
      ∃ offset < addrs.length,
        addrs[scanIndex usizeLimit addrs.length ticket offset]? = some addr ∧
        up (scanIndex usizeLimit addrs.length ticket offset) ∧
        ∀ earlier < offset, ¬up (scanIndex usizeLimit addrs.length ticket earlier)
  | .error error =>
      error = .noHealthyBackend ∧
        ∀ offset < addrs.length, ¬up (scanIndex usizeLimit addrs.length ticket offset)

/-- The entries of the set are those of the configured addresses after the
probes. -/
structure Mirrors (config : HealthConfig) (addrs : List SocketAddr) (probes : List Probe)
    (set : BackendSet) : Prop where
  addresses : set.addresses = addrs
  first : ∀ (index : Nat) (entry : BackendEntry), set.entries.val[index]? = some entry →
    entry.addr ∉ addrs.take index → Reflects config entry (outcomes entry.addr probes)
  repeated : ∀ (index : Nat) (entry : BackendEntry), set.entries.val[index]? = some entry →
    entry.addr ∈ addrs.take index → entry.healthy = true

variable {config : HealthConfig} {addrs : List SocketAddr} {probes : List Probe}
  {set : BackendSet} {entry : BackendEntry} {index : Nat}

theorem outcomes_concat (addr : SocketAddr) (probes : List Probe) (probe : Probe) :
    outcomes addr (probes ++ [probe]) =
      if probe.addr = addr then outcomes addr probes ++ [probe.ok] else outcomes addr probes := by
  rw [outcomes, List.filter_append, List.map_append]
  by_cases same : probe.addr = addr
  · simp [outcomes, same]
  · simp [outcomes, same]

/-! ## What the probes do -/

theorem mirrors_new (addrs : Vec SocketAddr) (valid : config.validate = .ok ()) :
    Mirrors config addrs.val [] (new addrs) := by
  obtain ⟨_, _, failures, recoveries⟩ := (HealthConfig.validate_eq_ok_iff config).mp valid
  have fresh : ∀ (index : Nat) (entry : BackendEntry),
      (new addrs).entries.val[index]? = some entry →
        entry = { addr := entry.addr, healthy := true, consecutiveFailures := 0,
                  consecutiveSuccesses := 0 } := by
    intro index entry found
    rw [new, List.getElem?_map] at found
    obtain ⟨addr, _, rfl⟩ := Option.map_eq_some_iff.mp found
    rfl
  constructor
  · exact addresses_new addrs
  · intro index entry found _
    rw [fresh index entry found]
    exact reflects_foldl entry.addr failures recoveries []
  · intro index entry found _
    rw [fresh index entry found]

theorem Mirrors.addr (mirrors : Mirrors config addrs probes set)
    (found : set.entries.val[index]? = some entry) : addrs[index]? = some entry.addr := by
  rw [← mirrors.addresses, BackendSet.addresses, List.getElem?_map, found]
  rfl

/-- A probe counts for the first entry with its address. -/
theorem Mirrors.recordProbe (mirrors : Mirrors config addrs probes set)
    (valid : config.validate = .ok ()) (probe : Probe) :
    Mirrors config addrs (probes ++ [probe]) (set.recordProbe config probe) := by
  obtain ⟨_, _, failures, recoveries⟩ := (HealthConfig.validate_eq_ok_iff config).mp valid
  have entries : ∀ index, (set.recordProbe config probe).entries.val[index]? =
      if probe.addr ∈ addrs.take index then set.entries.val[index]?
      else set.entries.val[index]?.map fun entry =>
        if entry.addr = probe.addr then count config entry probe.ok else entry := by
    intro index
    have before : (set.entries.val.take index).any (·.addr = probe.addr) = true ↔
        probe.addr ∈ addrs.take index := by
      rw [← mirrors.addresses, BackendSet.addresses, ← List.map_take, List.mem_map]
      simp
    have changed : (set.recordProbe config probe).entries.val =
        modifyFirst (·.addr = probe.addr) (fun entry => count config entry probe.ok)
          set.entries.val := by
      rw [recordProbe_eq]
      rfl
    rw [changed, getElem?_modifyFirst]
    simp only [before, decide_eq_true_eq]
  constructor
  · rw [addresses_recordProbe, mirrors.addresses]
  · intro index entry found notBefore
    rw [entries] at found
    rw [outcomes_concat]
    split at found
    case isTrue listed =>
        have different : probe.addr ≠ entry.addr := fun same => notBefore (same ▸ listed)
        rw [if_neg different]
        exact mirrors.first index entry found notBefore
    case isFalse =>
        obtain ⟨old, foundOld, rfl⟩ := Option.map_eq_some_iff.mp found
        by_cases same : old.addr = probe.addr
        · rw [if_pos same, addr_count] at notBefore ⊢
          rw [if_pos same.symm]
          exact (mirrors.first index old foundOld notBefore).count failures recoveries probe.ok
        · rw [if_neg same] at notBefore ⊢
          rw [if_neg (Ne.symm same)]
          exact mirrors.first index old foundOld notBefore
  · intro index entry found listed
    rw [entries] at found
    split at found
    · exact mirrors.repeated index entry found listed
    case isFalse notListed =>
        obtain ⟨old, foundOld, rfl⟩ := Option.map_eq_some_iff.mp found
        by_cases same : old.addr = probe.addr
        · rw [if_pos same, addr_count, same] at listed
          exact absurd listed notListed
        · rw [if_neg same] at listed ⊢
          exact mirrors.repeated index old foundOld listed

theorem Mirrors.selectNext (mirrors : Mirrors config addrs probes set) :
    Mirrors config addrs probes set.selectNext.2 := by
  have entries := entries_selectNext set
  constructor
  · rw [BackendSet.addresses, entries]
    exact mirrors.addresses
  · rw [entries]
    exact mirrors.first
  · rw [entries]
    exact mirrors.repeated

/-! ## What a selection finds -/

theorem Mirrors.healthy_iff (mirrors : Mirrors config addrs probes set)
    (found : set.entries.val[index]? = some entry) :
    entry.healthy = true ↔ UpAt config addrs probes index := by
  have addr := mirrors.addr found
  by_cases listed : entry.addr ∈ addrs.take index
  · refine iff_of_true (mirrors.repeated index entry found listed) fun other same notListed => ?_
    obtain rfl : entry.addr = other := Option.some.inj (addr.symm.trans same)
    exact absurd listed notListed
  · have status := (mirrors.first index entry found listed).down
    constructor
    · intro healthy other same _ down
      obtain rfl : entry.addr = other := Option.some.inj (addr.symm.trans same)
      rw [status.mpr down] at healthy
      cases healthy
    · intro up
      rw [← Bool.not_eq_false, status]
      exact up entry.addr addr listed

/-- The selection after the probes. -/
theorem Mirrors.routed (mirrors : Mirrors config addrs probes set)
    (nonempty : addrs ≠ []) :
    Routed (UpAt config addrs probes) addrs set.nextIndex.val set.selectNext.1 := by
  have length : set.entries.val.length = addrs.length := by
    rw [← mirrors.addresses, BackendSet.addresses, List.length_map]
  have inhabited : set.entries.val.length ≠ 0 := by
    rw [length]
    exact List.length_pos_iff.mpr nonempty |>.ne'
  have rejected : ∀ offset,
      (set.entries.val[scanIndex usizeLimit addrs.length set.nextIndex.val offset]?).any
          (·.healthy) = false →
        ¬UpAt config addrs probes (scanIndex usizeLimit addrs.length set.nextIndex.val offset) := by
    intro offset none up
    have inside : scanIndex usizeLimit addrs.length set.nextIndex.val offset <
        set.entries.val.length := by
      rw [length]
      exact Nat.mod_lt _ (List.length_pos_iff.mpr nonempty)
    rw [List.getElem?_eq_getElem inside, Option.any_some] at none
    rw [(mirrors.healthy_iff (List.getElem?_eq_getElem inside)).mpr up] at none
    cases none
  rw [selectNext_eq inhabited]
  cases found : cyclicFind usizeLimit (·.healthy) set.entries.val set.nextIndex with
  | none =>
      refine ⟨rfl, fun offset bound => rejected offset ?_⟩
      rw [cyclicFind, List.findSome?_eq_none_iff] at found
      rw [← length] at bound
      have passed := found offset (List.mem_range.mpr bound)
      rw [← Option.isSome_filter, ← length]
      exact Option.isSome_eq_false_iff.mpr (Option.isNone_iff_eq_none.mpr passed)
  | some entry =>
      obtain ⟨offset, bound, atOffset, healthy, earlier⟩ := cyclicFind_eq_some_iff.mp found
      rw [length] at bound atOffset earlier
      refine ⟨offset, bound, mirrors.addr atOffset, (mirrors.healthy_iff atOffset).mp healthy, ?_⟩
      exact fun before isBefore => rejected before (earlier before isBefore)

/-! ## What a probe reports -/

/-- The records of a probe, after the earlier outcomes for its address: one if it
changes the status. -/
structure Reports (config : HealthConfig) (history : List Bool) (probe : Probe)
    (records : List LogRecord) : Prop where
  unchanged : (Up config (history ++ [probe.ok]) ↔ Up config history) → records = []
  recovered : ¬Up config history → Up config (history ++ [probe.ok]) →
    records = [healthRecord true probe.addr]
  failed : Up config history → ¬Up config (history ++ [probe.ok]) →
    records = [healthRecord false probe.addr]

theorem Mirrors.isHealthy_iff (mirrors : Mirrors config addrs probes set) {addr : SocketAddr}
    (known : addr ∈ addrs) :
    set.isHealthy addr = true ↔ Up config (outcomes addr probes) := by
  have present : set.entryFor addr ≠ none := by
    rw [← mirrors.addresses, BackendSet.addresses] at known
    obtain ⟨entry, member, rfl⟩ := List.mem_map.mp known
    intro absent
    have unlisted := List.find?_eq_none.mp absent entry member
    exact unlisted (decide_eq_true rfl)
  obtain ⟨entry, found⟩ := Option.ne_none_iff_exists'.mp present
  rw [isHealthy, found, Option.any_some]
  obtain ⟨same, index, inside, rfl, before⟩ := List.find?_eq_some_iff_getElem.mp found
  obtain rfl := of_decide_eq_true same
  have atIndex := List.getElem?_eq_getElem inside
  have notBefore : set.entries.val[index].addr ∉ addrs.take index := by
    rw [← mirrors.addresses, BackendSet.addresses, ← List.map_take]
    intro listed
    obtain ⟨other, among, equal⟩ := List.mem_map.mp listed
    obtain ⟨position, bound, rfl⟩ := List.mem_take_iff_getElem.mp among
    have different := before position (by omega)
    rw [Bool.not_eq_true', decide_eq_false_iff_not] at different
    exact different equal
  rw [Up, ← (mirrors.first index _ atIndex notBefore).down, Bool.not_eq_false]

theorem Mirrors.reports (mirrors : Mirrors config addrs probes set)
    (valid : config.validate = .ok ()) {probe : Probe} (known : probe.addr ∈ addrs) :
    Reports config (outcomes probe.addr probes) probe
      ((set.probeBackend config probe).2.map (·.2)) := by
  have before := mirrors.isHealthy_iff known
  have after := (mirrors.recordProbe valid probe).isHealthy_iff known
  rw [outcomes_concat, if_pos rfl] at after
  have whole : emittedFor probe.addr (set.probeBackend config probe).2 =
      (set.probeBackend config probe).2.map (·.2) := by
    have own : ∀ entry ∈ (set.probeBackend config probe).2, entry.1 = probe.addr := by
      intro entry member
      unfold probeBackend at member
      dsimp only at member
      split at member <;> split at member
      · rw [List.mem_singleton.mp member]
      · cases member
      · rw [List.mem_singleton.mp member]
      · cases member
    rw [emittedFor, List.filter_eq_self.mpr]
    intro entry member
    exact decide_eq_true (own entry member)
  rw [← whole, emitted_probeBackend]
  generalize (set.recordProbe config probe).isHealthy probe.addr = now at after
  generalize set.isHealthy probe.addr = earlier at before
  constructor
  · intro same
    rw [← before, ← after, Bool.eq_iff_iff.symm] at same
    exact if_pos same
  · intro down up
    rw [← after] at up
    rw [← before, Bool.not_eq_true] at down
    rw [up, down]
    rfl
  · intro up down
    rw [← before] at up
    rw [← after, Bool.not_eq_true] at down
    rw [up, down]
    rfl

end BackendSet

end Mzani
