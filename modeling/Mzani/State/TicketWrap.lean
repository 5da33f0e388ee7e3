import Mzani.State.Backend

/-!
# Tickets at the limit

The ticket counter wraps silently, the index computation `start + offset` does
not: near the limit a scan is sound exactly if it ends before.
-/

namespace Mzani

open Support

namespace BackendSet

/-- The index computed at an offset, as a release build computes it. -/
def indexAt (set : BackendSet) (offset : Nat) : Nat :=
  scanIndex usizeLimit set.entries.val.length set.nextIndex offset

/-- The offsets that the loop of `select_next` comes to. -/
def scanned (set : BackendSet) : List Nat :=
  scannedOffsets usizeLimit (·.healthy) set.entries.val set.nextIndex

/-- What a selection does whatever the value of the counter: no sum overflows,
no entry is passed twice, none is left out unless one is selected, and none is
healthy if none is selected. -/
structure SurvivesWrap (set : BackendSet) : Prop where
  noOverflow : ∀ offset ∈ set.scanned, set.nextIndex + offset < usizeLimit
  once : (set.scanned.map set.indexAt).Nodup
  complete : (∃ addr, set.selectNext.1 = .ok addr) ∨
    ∀ index < set.entries.val.length, index ∈ set.scanned.map set.indexAt
  unhealthy : set.selectNext.1 = .error .noHealthyBackend →
    ∀ entry ∈ set.entries.val, entry.healthy = false

/-- Going up from the counter, a healthy entry comes before the limit. -/
def HealthyBeforeLimit (set : BackendSet) : Prop :=
  ∃ ticket : Nat, set.nextIndex ≤ ticket ∧ ticket < usizeLimit ∧
    ∃ entry, set.entries.val[ticket % set.entries.val.length]? = some entry ∧
      entry.healthy = true

variable {set : BackendSet}

/-- The selection is of the entry at the last offset. -/
theorem selectNext_eq_scanned (nonempty : set.entries.val.length ≠ 0) :
    set.selectNext.1 =
      (set.scanned.getLast?.bind fun offset =>
        (set.entries.val[set.indexAt offset]?).filter (·.healthy)).elim
        (.error .noHealthyBackend) fun entry => .ok entry.addr := by
  rw [selectNext_eq nonempty, cyclicFind_eq_scanned]
  rfl

theorem cyclicFind_of_selectNext (nonempty : set.entries.val.length ≠ 0)
    (failed : ∀ addr, set.selectNext.1 ≠ .ok addr) :
    cyclicFind usizeLimit (·.healthy) set.entries.val set.nextIndex = none := by
  cases found : cyclicFind usizeLimit (·.healthy) set.entries.val set.nextIndex with
  | none => rfl
  | some entry =>
      have selected : set.selectNext.1 = .ok entry.addr := by
        rw [selectNext_eq nonempty, found]
        rfl
      exact absurd selected (failed entry.addr)

/-- A scan that finds nothing, and does not wrap, passes every entry. -/
theorem scanned_complete (nonempty : set.entries.val.length ≠ 0)
    (noOverflow : ∀ offset ∈ set.scanned, set.nextIndex + offset < usizeLimit)
    (failed : ∀ addr, set.selectNext.1 ≠ .ok addr) {index : Nat}
    (inside : index < set.entries.val.length) : index ∈ set.scanned.map set.indexAt := by
  obtain ⟨offset, offsetInside, reached⟩ := exists_offset set.nextIndex.val inside
  have member : offset ∈ set.scanned := by
    rw [scanned, scannedOffsets_of_none (cyclicFind_of_selectNext nonempty failed)]
    exact List.mem_range.mpr offsetInside
  apply List.mem_map.mpr
  refine ⟨offset, member, ?_⟩
  rw [indexAt, scanIndex_of_lt (noOverflow offset member), reached]

theorem noWrap_of_scanned (failed : cyclicFind usizeLimit (·.healthy) set.entries.val
      set.nextIndex = none)
    (noOverflow : ∀ offset ∈ set.scanned, set.nextIndex + offset < usizeLimit) :
    set.NoWrap := by
  rw [scanned, scannedOffsets_of_none failed] at noOverflow
  unfold NoWrap
  cases length : set.entries.val.length with
  | zero => exact set.nextIndex.isLt.le
  | succ last =>
      have sum := noOverflow last (List.mem_range.mpr (by omega))
      omega

/-- A selection survives every value of the counter exactly if a whole round
stays below the limit, or a healthy entry is reached before. -/
theorem survivesWrap_iff (nonempty : set.entries.val ≠ []) :
    set.SurvivesWrap ↔ set.NoWrap ∨ set.HealthyBeforeLimit := by
  have some : set.entries.val.length ≠ 0 := by
    rwa [ne_eq, List.length_eq_zero_iff]
  have exactly : (∀ offset ∈ set.scanned, set.nextIndex + offset < usizeLimit) ↔
      set.NoWrap ∨ set.HealthyBeforeLimit :=
    scanned_noWrap_iff BackendEntry.healthy set.entries.val set.nextIndex.isLt
  constructor
  · intro survives
    exact exactly.mp survives.noOverflow
  · intro early
    have noOverflow := exactly.mpr early
    constructor
    case noOverflow => exact noOverflow
    case once => exact nodup_scanned noOverflow
    case complete =>
        by_cases selected : ∃ addr, set.selectNext.1 = .ok addr
        · exact Or.inl selected
        · rw [not_exists] at selected
          right
          intro index inside
          exact scanned_complete some noOverflow selected inside
    case unhealthy =>
        intro failed entry member
        rw [Bool.eq_false_iff]
        intro healthy
        have nothing : ∀ addr, set.selectNext.1 ≠ .ok addr := by
          intro addr selected
          rw [failed] at selected
          cases selected
        have noWrap := noWrap_of_scanned (cyclicFind_of_selectNext some nothing) noOverflow
        obtain ⟨addr, selected⟩ := selectNext_ne_error member healthy noWrap
        exact nothing addr selected

/-- Without overflow checks, a number of backends that divides the limit is
safe: a power of two. -/
theorem selectNext_of_dvd {entry : BackendEntry} (member : entry ∈ set.entries.val)
    (healthy : entry.healthy = true) (divides : set.entries.val.length ∣ usizeLimit) :
    ∃ addr, set.selectNext.1 = .ok addr := by
  have nonempty : set.entries.val.length ≠ 0 := (List.length_pos_of_mem member).ne'
  obtain ⟨found, scan⟩ := Option.isSome_iff_exists.mp
    (isSome_cyclicFind_of_dvd set.nextIndex member healthy divides)
  refine ⟨found.addr, ?_⟩
  rw [selectNext_eq nonempty, scan]
  rfl

def threeBackends : Vec SocketAddr :=
  ⟨[.v4 localhost 9000, .v4 localhost 9001, .v4 localhost 9002], by simp⟩

/-- Three backends with only the last one up, and the last ticket. -/
def lastTicket : BackendSet :=
  { (new threeBackends).run
      [.failure (.v4 localhost 9000) 1, .failure (.v4 localhost 9001) 1] with
    nextIndex := Fin.last _ }

/-- The scan wraps to the first backend, which it has passed, and misses the
only healthy one. -/
theorem lastTicket_missed :
    lastTicket.entries.val ≠ [] ∧ lastTicket.scanned.map lastTicket.indexAt = [0, 0, 1] ∧
      lastTicket.selectNext.1 = .error .noHealthyBackend ∧
      lastTicket.isHealthy (.v4 localhost 9002) = true ∧ ¬lastTicket.SurvivesWrap := by
  have visits : lastTicket.scanned.map lastTicket.indexAt = [0, 0, 1] := by decide +kernel
  refine ⟨by decide +kernel, visits, by decide +kernel, by decide +kernel, ?_⟩
  intro survives
  have twice := survives.once
  rw [visits] at twice
  exact absurd twice (by decide)

/-- The last ticket falls on a backend that is up. -/
theorem survivesWrap_last :
    BackendSet.SurvivesWrap { new pair.backends with nextIndex := Fin.last _ } := by
  apply (survivesWrap_iff (by decide)).mpr
  right
  exact ⟨usizeLimit - 1, by decide, by decide, _, rfl, rfl⟩

end BackendSet

end Mzani
