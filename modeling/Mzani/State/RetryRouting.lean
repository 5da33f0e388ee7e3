import Mzani.State.RetryCalls
import Mzani.State.TicketWrap
import Mzani.Support.CyclicShares

/-!
# Where a retry goes

A retry draws a fresh ticket and does not say which backend has failed, so it
moves on exactly if that ticket comes to another healthy backend first.
-/

namespace Mzani

open Support

namespace BackendSet

/-- The set when a retry selects: other workers have made `others retry` calls
of `select_next` since the last selection. -/
def atRetry (set : BackendSet) (others : Nat → Nat) : (retry : Nat) → BackendSet
  | 0 => set.run (List.replicate (others 0) .select)
  | retry + 1 =>
      (set.atRetry others retry).selectNext.2.run (List.replicate (others (retry + 1)) .select)

/-- The calls of a retry loop on the set. -/
def retryCalls (set : BackendSet) (others : Nat → Nat)
    (proxyToBackend : Nat → SocketAddr → MzaniResult Bytes) : RetryCalls where
  proxyToBackend := proxyToBackend
  selectBackend retry := (set.atRetry others retry).selectNext.1

/-- Going round from the ticket, another healthy backend comes before the failed
one. -/
def MovesOn (set : BackendSet) (failed : SocketAddr) : Prop :=
  ∃ offset < set.entries.val.length, ∃ entry,
    set.entries.val[set.indexAt offset]? = some entry ∧ entry.healthy = true ∧
      entry.addr ≠ failed ∧
      ∀ earlier < offset, ∀ other, set.entries.val[set.indexAt earlier]? = some other →
        other.healthy = true → other.addr ≠ failed

variable {set : BackendSet} {failed : SocketAddr}

theorem entries_run_select (set : BackendSet) (count : Nat) :
    (set.run (List.replicate count .select)).entries = set.entries := by
  induction count generalizing set with
  | zero => rfl
  | succ count ih =>
      rw [List.replicate_succ, run, List.foldl_cons, ← run, ih]
      exact entries_selectNext set

theorem entries_atRetry (set : BackendSet) (others : Nat → Nat) (retry : Nat) :
    (set.atRetry others retry).entries = set.entries := by
  induction retry with
  | zero => exact entries_run_select set (others 0)
  | succ retry ih => rw [atRetry, entries_run_select, entries_selectNext, ih]

theorem selectNext_ok_iff {addr : SocketAddr} :
    set.selectNext.1 = .ok addr ↔
      ∃ entry, cyclicFind usizeLimit (·.healthy) set.entries.val set.nextIndex =
        some entry ∧ entry.addr = addr := by
  by_cases empty : set.entries.val.length = 0
  · rw [List.length_eq_zero_iff] at empty
    simp [selectNext, empty, cyclicFind]
  · rw [selectNext_eq empty]
    cases cyclicFind usizeLimit (·.healthy) set.entries.val set.nextIndex <;> simp

/-- A selection gives another backend exactly if one comes first. -/
theorem selectNext_movesOn (set : BackendSet) (failed : SocketAddr) :
    (∃ addr, set.selectNext.1 = .ok addr ∧ addr ≠ failed) ↔ set.MovesOn failed := by
  constructor
  · rintro ⟨addr, selected, different⟩
    obtain ⟨entry, found, rfl⟩ := selectNext_ok_iff.mp selected
    obtain ⟨offset, inside, atOffset, healthy, none⟩ := cyclicFind_eq_some_iff.mp found
    refine ⟨offset, inside, entry, atOffset, healthy, different, ?_⟩
    intro earlier before other atEarlier otherHealthy
    have down := none earlier before
    unfold indexAt at atEarlier
    simp [atEarlier, otherHealthy] at down
  · rintro ⟨offset, inside, entry, atOffset, healthy, different, avoids⟩
    -- the scan stops at this entry or at another one before it
    have stops : ((set.entries.val[set.indexAt offset]?).any (·.healthy)) = true := by
      simp [atOffset, healthy]
    cases found : cyclicFind usizeLimit (·.healthy) set.entries.val set.nextIndex with
    | none =>
        rw [cyclicFind, List.findSome?_eq_none_iff] at found
        have down := found offset (List.mem_range.mpr inside)
        change (set.entries.val[set.indexAt offset]?).filter (·.healthy) = none at down
        rw [← Option.isNone_iff_eq_none, ← Option.isSome_eq_false_iff, Option.isSome_filter,
          stops] at down
        cases down
    | some first =>
        refine ⟨first.addr, selectNext_ok_iff.mpr ⟨first, found, rfl⟩, ?_⟩
        obtain ⟨firstOffset, _, atFirst, firstHealthy, before⟩ :=
          cyclicFind_eq_some_iff.mp found
        rcases Nat.lt_trichotomy firstOffset offset with earlier | same | later
        · exact avoids firstOffset earlier first atFirst firstHealthy
        · subst same
          have sameEntry : first = entry := Option.some.inj (atFirst.symm.trans atOffset)
          rwa [sameEntry]
        · have down := before offset later
          change (set.entries.val[set.indexAt offset]?).any (·.healthy) = false at down
          rw [stops] at down
          cases down

end BackendSet

namespace RetryCalls

variable {calls : RetryCalls} {firstTarget : SocketAddr}

/-- The attempts are every second call. -/
theorem getElem?_callsFrom (start retries attempt : Nat) :
    (calls.callsFrom firstTarget start retries)[2 * attempt]? =
      if attempt ≤ retries then some (calls.attemptCall firstTarget (start + attempt))
      else none := by
  induction retries generalizing start attempt with
  | zero =>
      cases attempt with
      | zero => rfl
      | succ attempt => simp [callsFrom]
  | succ retries ih =>
      cases attempt with
      | zero => rfl
      | succ attempt =>
          have later := ih (start + 1) attempt
          rw [callsFrom, Nat.mul_succ, List.getElem?_cons_succ, List.getElem?_cons_succ, later,
            Nat.add_assoc, Nat.add_comm 1]
          simp

theorem attempt_of_getElem? {retries attempt : Nat} {target : SocketAddr}
    {result : MzaniResult Bytes}
    (made : (calls.callsFrom firstTarget 0 retries)[2 * attempt]? =
      some (.proxyToBackend target result)) :
    attempt ≤ retries ∧ calls.target firstTarget attempt = target ∧
      calls.result firstTarget attempt = result := by
  rw [getElem?_callsFrom, Nat.zero_add] at made
  split at made
  case isTrue inside =>
      cases made
      exact ⟨inside, rfl, rfl⟩
  case isFalse => cases made

/-- After a failed attempt that is not the last one allowed, the next one is on
the target selected, or on the same one if the selection fails. -/
theorem next_attempt {maxBackendRetries : U32} {attempt : Nat} {failed : SocketAddr}
    {error : MzaniError}
    (failedAttempt : (calls.runLoop firstTarget maxBackendRetries).2[2 * attempt]? =
      some (.proxyToBackend failed (.error error)))
    (remains : attempt + 1 < mostAttempts maxBackendRetries) :
    ∃ result, (calls.runLoop firstTarget maxBackendRetries).2[2 * (attempt + 1)]? =
      some (.proxyToBackend ((calls.selectBackend attempt).toOption.getD failed) result) := by
  have ends := runLoop_ends calls firstTarget maxBackendRetries
  generalize calls.runLoop firstTarget maxBackendRetries = run at failedAttempt ends ⊢
  have inside : ∃ retries, attempt < retries ∧
      run.2 = calls.callsFrom firstTarget 0 retries ∧
      calls.target firstTarget attempt = failed := by
    cases ends with
    | @answered retries response _ _ answer =>
        obtain ⟨reached, target, result⟩ := attempt_of_getElem? failedAttempt
        rw [Nat.zero_add] at answer
        refine ⟨retries, ?_, rfl, target⟩
        rcases Nat.eq_or_lt_of_le reached with rfl | more
        · rw [answer] at result
          cases result
        · exact more
    | @exhausted retries _ last _ _ =>
        obtain ⟨_, target, _⟩ := attempt_of_getElem? failedAttempt
        exact ⟨retries, by omega, rfl, target⟩
  obtain ⟨retries, more, made, target⟩ := inside
  refine ⟨calls.result firstTarget (attempt + 1), ?_⟩
  rw [made, getElem?_callsFrom, if_pos (Nat.succ_le_of_lt more), Nat.zero_add, attemptCall,
    RetryCalls.target, target]

end RetryCalls

namespace BackendSet

variable {set : BackendSet} {failed firstTarget : SocketAddr}

/-- What is selected is healthy. -/
theorem isHealthy_atRetry (distinct : set.addresses.Nodup) {others : Nat → Nat}
    {retry : Nat} {addr : SocketAddr}
    (selected : (set.atRetry others retry).selectNext.1 = .ok addr) :
    set.isHealthy addr = true := by
  obtain ⟨entry, member, healthy, rfl⟩ := selectNext_ok selected
  rw [entries_atRetry] at member
  exact isHealthy_iff.mpr ⟨entry, entryFor_of_mem distinct member, healthy⟩

/-- The attempt after a failed one is made on another, healthy backend exactly
if one comes first from the ticket of the retry. -/
theorem retry_movesOn_iff (distinct : set.addresses.Nodup) (others : Nat → Nat)
    (proxyToBackend : Nat → SocketAddr → MzaniResult Bytes) {maxBackendRetries : U32}
    {retry : Nat} {error : MzaniError}
    (failedAttempt : ((set.retryCalls others proxyToBackend).runLoop firstTarget
      maxBackendRetries).2[2 * retry]? = some (.proxyToBackend failed (.error error)))
    (remains : retry + 1 < RetryCalls.mostAttempts maxBackendRetries) :
    (∃ next result,
      ((set.retryCalls others proxyToBackend).runLoop firstTarget
        maxBackendRetries).2[2 * (retry + 1)]? = some (.proxyToBackend next result) ∧
      set.isHealthy next = true ∧ next ≠ failed) ↔
      (set.atRetry others retry).MovesOn failed := by
  obtain ⟨result, made⟩ := RetryCalls.next_attempt failedAttempt remains
  rw [← selectNext_movesOn, made]
  change _ ↔ ∃ addr, (set.retryCalls others proxyToBackend).selectBackend retry = .ok addr ∧
    addr ≠ failed
  cases selection : (set.retryCalls others proxyToBackend).selectBackend retry with
  | error refusal =>
      constructor
      · rintro ⟨next, _, same, _, different⟩
        cases same
        exact absurd rfl different
      · rintro ⟨addr, selected, _⟩
        cases selected
  | ok addr =>
      constructor
      · rintro ⟨next, _, same, _, different⟩
        cases same
        exact ⟨addr, rfl, different⟩
      · rintro ⟨other, selected, different⟩
        cases selected
        exact ⟨addr, result, rfl, isHealthy_atRetry distinct selection, different⟩

/-- Far from the limit, a retry stays on a healthy backend exactly if its ticket
is on it or on one of the unhealthy backends immediately before it. -/
theorem not_movesOn_iff (distinct : set.addresses.Nodup) (noWrap : set.NoWrap) {index : Nat}
    (inside : index < set.entries.val.length)
    (healthy : set.entries.val[index].healthy = true) :
    ¬set.MovesOn set.entries.val[index].addr ↔
      ∃ distance ≤ rejectedBefore (·.healthy) set.entries.val index,
        (set.nextIndex + distance) % set.entries.val.length = index := by
  have round : set.nextIndex + set.entries.val.length ≤ usizeLimit := noWrap
  have inRange : ∀ offset < set.entries.val.length,
      set.indexAt offset = (set.nextIndex + offset) % set.entries.val.length := by
    intro offset offsetInside
    exact scanIndex_of_lt (by omega)
  obtain ⟨entry, found⟩ := Option.isSome_iff_exists.mp
    (isSome_cyclicFind (List.getElem_mem inside) healthy noWrap)
  obtain ⟨offset, offsetInside, atOffset, up, before⟩ := cyclicFind_eq_some_iff.mp found
  have reached := inRange offset offsetInside
  unfold indexAt at reached inRange
  have first : FirstAt BackendEntry.healthy set.entries.val set.nextIndex offset := by
    constructor
    · exact offsetInside
    · rw [← reached]
      exact ⟨entry, atOffset, up⟩
    · intro earlier isBefore
      have below : earlier < set.entries.val.length := isBefore.trans offsetInside
      have down := before earlier isBefore
      have positive : (set.nextIndex.val + earlier) % set.entries.val.length <
          set.entries.val.length := Nat.mod_lt _ (Nat.zero_lt_of_lt below)
      rw [inRange earlier below, List.getElem?_eq_getElem positive] at down
      exact ⟨_, List.getElem?_eq_getElem positive, by simpa using down⟩
  rw [← first.index_iff inside healthy, ← reached, ← selectNext_movesOn]
  have selected : set.selectNext.1 = .ok entry.addr :=
    selectNext_ok_iff.mpr ⟨entry, found, rfl⟩
  constructor
  · intro stays
    have same : entry.addr = set.entries.val[index].addr := by
      by_contra different
      exact stays ⟨entry.addr, selected, different⟩
    have atIndex : set.addresses[index]? = some entry.addr := by
      rw [addresses, List.getElem?_map, List.getElem?_eq_getElem inside, same]
      rfl
    have atScan : set.addresses[scanIndex usizeLimit set.entries.val.length set.nextIndex
        offset]? = some entry.addr := by
      rw [addresses, List.getElem?_map, atOffset]
      rfl
    have scanned := (List.getElem?_eq_some_iff.mp atScan).1
    exact (List.getElem?_inj scanned distinct).mp (atScan.trans atIndex.symm)
  · rintro sameIndex ⟨addr, alsoSelected, different⟩
    rw [sameIndex, List.getElem?_eq_getElem inside, Option.some.injEq] at atOffset
    rw [selected, Except.ok.injEq] at alsoSelected
    rw [atOffset] at different
    exact different alsoSelected.symm

/-- Three backends, the second of them down, after the first has been
selected. -/
def secondDown : BackendSet :=
  (new threeBackends).run
    [.failure (.v4 localhost 9001) 1, .select]

/-- The retry goes to the backend that has just failed. -/
theorem secondDown_same_backend :
    secondDown.addresses.Nodup ∧ secondDown.healthyCount = 2 ∧
      secondDown.selectNext.1 = .ok (.v4 localhost 9002) ∧
      ((secondDown.selectNext.2.retryCalls (fun _ => 0) fun _ _ => .error .timeout).runLoop
        (.v4 localhost 9002) 1).2 =
        [.proxyToBackend (.v4 localhost 9002) (.error .timeout),
          .selectBackend (.ok (.v4 localhost 9002)),
          .proxyToBackend (.v4 localhost 9002) (.error .timeout)] := by
  decide +kernel

/-- With a selection of another worker in between, it goes to the other one. -/
theorem retry_moves_on :
    ∃ next result,
      ((secondDown.selectNext.2.retryCalls (fun _ => 1) fun _ _ => .error .timeout).runLoop
        (.v4 localhost 9002) 1).2[2]? = some (.proxyToBackend next result) ∧
      secondDown.selectNext.2.isHealthy next = true ∧ next ≠ .v4 localhost 9002 := by
  have failedAttempt : ((secondDown.selectNext.2.retryCalls (fun _ => 1)
      fun _ _ => .error .timeout).runLoop (.v4 localhost 9002) 1).2[2 * 0]? =
        some (.proxyToBackend (.v4 localhost 9002) (.error .timeout)) := by
    decide +kernel
  apply (retry_movesOn_iff (by decide +kernel) _ _ failedAttempt (by decide)).mpr
  let first : BackendEntry :=
    { addr := .v4 localhost 9000, healthy := true, consecutiveFailures := 0,
      consecutiveSuccesses := 0 }
  refine ⟨0, by decide +kernel, first, by decide +kernel, rfl, by decide, ?_⟩
  intro earlier impossible
  cases impossible

end BackendSet

end Mzani
