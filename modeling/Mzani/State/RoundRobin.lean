import Mzani.State.Backend

/-!
# Fairness of the ticket counter

One ticket a selection, over all backends: an unhealthy backend gives its
turns to the next healthy one, so the turns of healthy backends are balanced
exactly if nothing is skipped.
-/

namespace Mzani

open Support

namespace BackendSet

/-- The results of consecutive selections. -/
def selections (set : BackendSet) : Nat → List (MzaniResult SocketAddr)
  | 0 => []
  | count + 1 => set.selectNext.1 :: selections set.selectNext.2 count

/-- From every ticket that is far from wrapping, any two healthy backends are
selected equally often, up to one. -/
def Fair (set : BackendSet) : Prop :=
  ∀ (start : Usize) (count : Nat),
    start + count + set.entries.val.length ≤ usizeLimit →
      ∀ first ∈ set.entries.val, first.healthy = true →
        ∀ second ∈ set.entries.val, second.healthy = true →
          let results := selections { set with nextIndex := start } count
          results.count (.ok first.addr) ≤ results.count (.ok second.addr) + 1

/-- The result of one ticket. -/
def ticketResult (entries : List BackendEntry) (ticket : Nat) : MzaniResult SocketAddr :=
  (cyclicFind usizeLimit (·.healthy) entries ticket).elim (.error .noHealthyBackend)
    fun entry => .ok entry.addr

theorem selections_eq {set : BackendSet} (nonempty : set.entries.val.length ≠ 0)
    (count : Nat) (noWrap : set.nextIndex + count < usizeLimit) :
    selections set count =
      (List.range count).map fun ticket =>
        ticketResult set.entries.val (set.nextIndex + ticket) := by
  induction count generalizing set with
  | zero => rfl
  | succ count induction =>
      have advanced : ((set.nextIndex + 1 : Usize) : Nat) = set.nextIndex + 1 := by
        have one : ((1 : Usize) : Nat) = 1 := rfl
        rw [Fin.val_add, one, Nat.mod_eq_of_lt (by omega)]
      let next : BackendSet := { set with nextIndex := set.nextIndex + 1 }
      have later : selections next count = (List.range count).map fun ticket =>
          ticketResult set.entries.val (set.nextIndex + 1 + ticket) := by
        rw [← advanced]
        exact induction nonempty (by change ((set.nextIndex + 1 : Usize) : Nat) + _ < _; omega)
      rw [selections, selectNext_eq nonempty]
      change ticketResult set.entries.val set.nextIndex :: selections next count = _
      rw [later, List.range_succ_eq_map, List.map_cons, List.map_map]
      congr 1
      apply List.map_congr_left
      intro ticket _
      simp [Nat.add_assoc, Nat.add_comm 1]

/-- When all backends are healthy, a ticket selects the entry it falls on. -/
theorem ticketResult_all_healthy {entries : List BackendEntry}
    (allHealthy : ∀ entry ∈ entries, entry.healthy = true) {ticket : Nat}
    (nonempty : entries ≠ []) (noWrap : ticket < usizeLimit) :
    ∃ entry, entries[ticket % entries.length]? = some entry ∧
      ticketResult entries ticket = .ok entry.addr := by
  have inside : ticket % entries.length < entries.length :=
    Nat.mod_lt _ (List.length_pos_iff.mpr nonempty)
  have here := List.getElem?_eq_getElem inside
  refine ⟨_, here, ?_⟩
  rw [ticketResult, cyclicFind_here here (allHealthy _ (List.getElem_mem inside)) noWrap]
  rfl

/-- With distinct addresses, an address is selected on its turns. -/
theorem count_all_healthy {entries : List BackendEntry}
    (distinct : (entries.map (·.addr)).Nodup)
    (allHealthy : ∀ entry ∈ entries, entry.healthy = true) {start count index : Nat}
    (inside : index < entries.length) (noWrap : start + count ≤ usizeLimit) :
    ((List.range count).map fun ticket => ticketResult entries (start + ticket)).count
        (.ok entries[index].addr) = turns entries.length start count index := by
  have nonempty : entries ≠ [] := List.ne_nil_of_length_pos (Nat.zero_lt_of_lt inside)
  rw [List.count, List.countP_map, turns]
  apply List.countP_congr
  intro ticket member
  have inRange : start + ticket < usizeLimit := by
    have := List.mem_range.mp member
    omega
  obtain ⟨entry, here, result⟩ := ticketResult_all_healthy allHealthy nonempty inRange
  obtain ⟨reached, rfl⟩ := List.getElem?_eq_some_iff.mp here
  have reachedMap : (start + ticket) % entries.length < (entries.map (·.addr)).length := by
    simpa using reached
  have insideMap : index < (entries.map (·.addr)).length := by simpa using inside
  have sameIndex : (entries.map (·.addr))[(start + ticket) % entries.length] =
      (entries.map (·.addr))[index] ↔ (start + ticket) % entries.length = index :=
    distinct.getElem_inj_iff
  simp only [List.getElem_map] at sameIndex
  simp only [Function.comp_apply, result, beq_iff_eq, Except.ok.injEq, decide_eq_true_eq,
    sameIndex]

theorem selections_restart {set : BackendSet} {start : Usize} {count : Nat}
    (nonempty : set.entries.val.length ≠ 0)
    (noWrap : start + count + set.entries.val.length ≤ usizeLimit) :
    selections { set with nextIndex := start } count =
      (List.range count).map fun ticket =>
        ticketResult set.entries.val (start + ticket) := by
  let restarted : BackendSet := { set with nextIndex := start }
  have restartedNonempty : restarted.entries.val.length ≠ 0 := nonempty
  have small : (restarted.nextIndex : Nat) + count < usizeLimit := by
    change (start : Nat) + count < usizeLimit
    omega
  exact selections_eq restartedNonempty count small

theorem fair_of_all_healthy {set : BackendSet} (distinct : set.addresses.Nodup)
    (allHealthy : ∀ entry ∈ set.entries.val, entry.healthy = true) : Fair set := by
  intro start count noWrap first firstMember _ second secondMember _
  have nonempty : set.entries.val.length ≠ 0 := (List.length_pos_of_mem firstMember).ne'
  obtain ⟨firstIndex, firstInside, rfl⟩ := List.mem_iff_getElem.mp firstMember
  obtain ⟨secondIndex, secondInside, rfl⟩ := List.mem_iff_getElem.mp secondMember
  have within : (start : Nat) + count ≤ usizeLimit := by omega
  simp only [selections_restart nonempty noWrap,
    count_all_healthy distinct allHealthy firstInside within,
    count_all_healthy distinct allHealthy secondInside within]
  exact turns_balanced start count firstInside secondInside

/-- Two healthy entries among at most one are the same. -/
theorem fair_of_one_healthy {set : BackendSet} (one : set.healthyCount ≤ 1) : Fair set := by
  intro start count _ first firstMember firstHealthy second secondMember secondHealthy
  have same : first = second := by
    have firstIn : first ∈ set.entries.val.filter (·.healthy) :=
      List.mem_filter.mpr ⟨firstMember, firstHealthy⟩
    have secondIn : second ∈ set.entries.val.filter (·.healthy) :=
      List.mem_filter.mpr ⟨secondMember, secondHealthy⟩
    rw [healthyCount, List.countP_eq_length_filter] at one
    obtain ⟨only, isOnly⟩ := List.length_eq_one_iff.mp
      (Nat.le_antisymm one (List.length_pos_of_mem firstIn))
    rw [isOnly, List.mem_singleton] at firstIn secondIn
    rw [firstIn, secondIn]
  rw [same]
  exact Nat.le_succ _

/-- Somewhere on the cycle a healthy entry follows an unhealthy one. -/
theorem exists_unhealthy_before_healthy {entries : List BackendEntry}
    {down up : BackendEntry} (downMember : down ∈ entries) (isDown : down.healthy = false)
    (upMember : up ∈ entries) (isUp : up.healthy = true) :
    ∃ index < entries.length, ∃ first second, entries[index]? = some first ∧
      first.healthy = false ∧ entries[(index + 1) % entries.length]? = some second ∧
      second.healthy = true := by
  by_contra none
  obtain ⟨start, startInside, rfl⟩ := List.mem_iff_getElem.mp downMember
  obtain ⟨index, inside, rfl⟩ := List.mem_iff_getElem.mp upMember
  have positive : 0 < entries.length := Nat.zero_lt_of_lt inside
  have allDown : ∀ offset, ∃ entry,
      entries[(start + offset) % entries.length]? = some entry ∧ entry.healthy = false := by
    intro offset
    induction offset with
    | zero =>
        rw [Nat.add_zero, Nat.mod_eq_of_lt startInside]
        exact ⟨_, List.getElem?_eq_getElem startInside, isDown⟩
    | succ offset induction =>
        obtain ⟨entry, here, entryDown⟩ := induction
        have nextInside := Nat.mod_lt ((start + offset) % entries.length + 1) positive
        have there := List.getElem?_eq_getElem nextInside
        rw [← Nat.add_assoc, ← Nat.mod_add_mod]
        refine ⟨_, there, ?_⟩
        rw [Bool.eq_false_iff]
        intro nextUp
        exact none ⟨_, Nat.mod_lt _ positive, entry, _, here, entryDown, there, nextUp⟩
  obtain ⟨offset, _, reached⟩ := exists_offset start inside
  obtain ⟨entry, here, entryDown⟩ := allDown offset
  rw [reached, List.getElem?_eq_getElem inside, Option.some.injEq] at here
  rw [here, entryDown] at isUp
  cases isUp

theorem exists_other_healthy {set : BackendSet} (distinct : set.addresses.Nodup)
    (several : 1 < set.healthyCount) (addr : SocketAddr) :
    ∃ other ∈ set.entries.val, other.healthy = true ∧ other.addr ≠ addr := by
  rw [healthyCount, List.countP_eq_length_filter] at several
  have upDistinct : ((set.entries.val.filter (·.healthy)).map (·.addr)).Nodup :=
    distinct.sublist (List.filter_sublist.map _)
  have isUp : ∀ entry ∈ set.entries.val.filter (·.healthy),
      entry ∈ set.entries.val ∧ entry.healthy = true := fun entry => List.mem_filter.mp
  cases ups : set.entries.val.filter (·.healthy) with
  | nil => simp [ups] at several
  | cons first others =>
      cases others with
      | nil => simp [ups] at several
      | cons second others =>
          rw [ups] at upDistinct isUp
          simp only [List.map_cons, List.nodup_cons, List.mem_cons, not_or] at upDistinct
          have different : first.addr ≠ second.addr := upDistinct.1.1
          by_cases same : first.addr = addr
          · obtain ⟨member, up⟩ := isUp second (by simp)
            exact ⟨second, member, up, fun alsoSame => different (same.trans alsoSame.symm)⟩
          · obtain ⟨member, up⟩ := isUp first (by simp)
            exact ⟨first, member, up, same⟩

/-- An unhealthy entry gives its tickets to the entry behind it. -/
theorem not_fair_of_unhealthy {set : BackendSet} (distinct : set.addresses.Nodup)
    {down : BackendEntry} (downMember : down ∈ set.entries.val)
    (isDown : down.healthy = false) (several : 1 < set.healthyCount) : ¬Fair set := by
  intro fair
  obtain ⟨up, upMember, isUp⟩ : ∃ up ∈ set.entries.val, up.healthy = true := by
    have positive : 0 < set.entries.val.countP (·.healthy) := Nat.lt_of_succ_lt several
    exact List.countP_pos_iff.mp positive
  obtain ⟨index, inside, first, second, here, firstDown, there, secondUp⟩ :=
    exists_unhealthy_before_healthy downMember isDown upMember isUp
  have secondMember := List.mem_of_getElem? there
  obtain ⟨other, otherMember, otherUp, different⟩ :
      ∃ other ∈ set.entries.val, other.healthy = true ∧ other.addr ≠ second.addr :=
    exists_other_healthy distinct several second.addr
  have bound := set.entries.property
  have limit : usizeLimit = 2 ^ 64 := rfl
  let start : Usize := ⟨index, by omega⟩
  have noWrap : (start : Nat) + 2 + set.entries.val.length ≤ usizeLimit := by
    change index + 2 + _ ≤ _
    omega
  have nonempty : set.entries.val.length ≠ 0 := by omega
  have balanced := fair start 2 noWrap second secondMember secondUp other otherMember otherUp
  have firstTicket : ticketResult set.entries.val index = .ok second.addr := by
    rw [ticketResult, cyclicFind_next (by rwa [Nat.mod_eq_of_lt inside]) firstDown there
      secondUp (by omega)]
    rfl
  have secondTicket : ticketResult set.entries.val (index + 1) = .ok second.addr := by
    rw [ticketResult, cyclicFind_here there secondUp (by omega)]
    rfl
  have results : selections { set with nextIndex := start } 2 =
      [.ok second.addr, .ok second.addr] := by
    rw [selections_restart nonempty noWrap]
    change [ticketResult set.entries.val index, ticketResult set.entries.val (index + 1)] = _
    rw [firstTicket, secondTicket]
  simp only [results] at balanced
  simp [Ne.symm different] at balanced

/-- The counter is fair exactly if it skips nothing, or has nothing to choose
from. -/
theorem fair_iff {set : BackendSet} (distinct : set.addresses.Nodup) :
    Fair set ↔
      (∀ entry ∈ set.entries.val, entry.healthy = true) ∨ set.healthyCount ≤ 1 := by
  constructor
  · intro fair
    by_contra neither
    rw [not_or] at neither
    obtain ⟨someDown, several⟩ := neither
    simp only [not_forall] at someDown
    obtain ⟨down, member, isDown⟩ := someDown
    exact not_fair_of_unhealthy distinct member (Bool.eq_false_iff.mpr isDown)
      (Nat.lt_of_not_le several) fair
  · rintro (allHealthy | one)
    · exact fair_of_all_healthy distinct allHealthy
    · exact fair_of_one_healthy one

/-- Three backends, the first of them down. -/
def firstDown : BackendSet :=
  (new ⟨[.v4 localhost 9000, .v4 localhost 9001, .v4 localhost 9002], by decide⟩).run
    [.failure (.v4 localhost 9000) 1]

/-- The second backend also gets the turns of the first. -/
theorem firstDown_not_fair :
    firstDown.addresses.Nodup ∧
      selections firstDown 6 =
        [.ok (.v4 localhost 9001), .ok (.v4 localhost 9001), .ok (.v4 localhost 9002),
          .ok (.v4 localhost 9001), .ok (.v4 localhost 9001), .ok (.v4 localhost 9002)] ∧
      ¬Fair firstDown := by
  have results : selections firstDown 6 =
      [.ok (.v4 localhost 9001), .ok (.v4 localhost 9001), .ok (.v4 localhost 9002),
        .ok (.v4 localhost 9001), .ok (.v4 localhost 9001), .ok (.v4 localhost 9002)] := by
    decide +kernel
  refine ⟨by decide +kernel, results, fun fair => ?_⟩
  have balanced := fair 0 6 (by decide)
    { addr := .v4 localhost 9001, healthy := true, consecutiveFailures := 0,
      consecutiveSuccesses := 0 } (by decide +kernel) rfl
    { addr := .v4 localhost 9002, healthy := true, consecutiveFailures := 0,
      consecutiveSuccesses := 0 } (by decide +kernel) rfl
  have fromStart : ({ firstDown with nextIndex := 0 } : BackendSet) = firstDown := by
    decide +kernel
  simp only [fromStart, results] at balanced
  exact absurd balanced (by decide)

theorem fair_pair : Fair (new pair.backends) :=
  (fair_iff (by decide)).mpr (Or.inl (by decide))

end BackendSet

end Mzani
