import Mathlib.Algebra.BigOperators.Group.Finset.Basic
import Mzani.State.MetricsReport

/-!
# Totals

The counters, the map and the registers of `Metrics` after any list of requests,
and what of them depends on the order in which the requests arrive.
-/

namespace Mzani

open Support

namespace Metrics

variable (metrics : Metrics) (all : List RequestStats)

/-! ## Registers after a run -/

theorem totalRequests_recordAll :
    (metrics.recordAll all).totalRequests =
      metrics.totalRequests + Fin.ofNat u64Limit all.length := by
  induction all generalizing metrics with
  | nil => exact (add_ofNat_zero _).symm
  | cons stats all ih =>
      rw [recordAll, List.foldl_cons, ← recordAll, ih, totalRequests_recordRequest,
        ofNat_succ, List.length_cons]

theorem totalDuration_recordAll :
    (metrics.recordAll all).totalDuration =
      metrics.totalDuration + (all.map (·.duration)).sum := by
  induction all generalizing metrics with
  | nil => rfl
  | cons stats all ih =>
      rw [recordAll, List.foldl_cons, ← recordAll, ih, List.map_cons, List.sum_cons,
        ← Nat.add_assoc]
      rfl

theorem totalBytesProxied_recordAll :
    (metrics.recordAll all).totalBytesProxied =
      metrics.totalBytesProxied +
        Fin.ofNat u64Limit (all.map fun stats => stats.requestLen + stats.responseLen).sum := by
  induction all generalizing metrics with
  | nil => exact (add_ofNat_zero _).symm
  | cons stats all ih =>
      rw [recordAll, List.foldl_cons, ← recordAll, ih, List.map_cons, List.sum_cons, ofNat_add,
        ← add_assoc]
      rfl

theorem lastRequestDuration_recordAll :
    (metrics.recordAll all).lastRequestDuration =
      (all.getLast?.map (·.duration)).getD metrics.lastRequestDuration := by
  induction all generalizing metrics with
  | nil => rfl
  | cons stats all ih =>
      rw [recordAll, List.foldl_cons, ← recordAll, ih]
      cases all with
      | nil => rfl
      | cons next others =>
          rw [List.getLast?_cons_cons, List.getLast?_eq_some_getLast (List.cons_ne_nil _ _)]
          rfl

theorem largestRequestBytes_recordAll :
    (metrics.recordAll all).largestRequestBytes =
      (all.map (·.requestLen)).foldl max metrics.largestRequestBytes := by
  induction all generalizing metrics with
  | nil => rfl
  | cons stats all ih =>
      have larger : (metrics.recordRequest stats).largestRequestBytes =
          max metrics.largestRequestBytes stats.requestLen := by
        simp only [recordRequest]
        split <;> omega
      rw [recordAll, List.foldl_cons, ← recordAll, ih, larger]
      rfl

theorem poolRejected_recordAll :
    (metrics.recordAll all).poolRejected = metrics.poolRejected := by
  induction all generalizing metrics with
  | nil => rfl
  | cons stats all ih =>
      rw [recordAll, List.foldl_cons, ← recordAll, ih]
      rfl

/-! ## The map -/

/-- The map has the backends that it had and those of the requests. -/
theorem mem_perBackend_recordAll (addr : SocketAddr) :
    addr ∈ (metrics.recordAll all).perBackend ↔
      addr ∈ metrics.perBackend ∨ addr ∈ all.map (·.backend) := by
  induction all generalizing metrics with
  | nil => simp [recordAll]
  | cons stats all ih =>
      have inserted : addr ∈ (metrics.recordRequest stats).perBackend ↔
          addr = stats.backend ∨ addr ∈ metrics.perBackend := AList.mem_insert _
      rw [recordAll, List.foldl_cons, ← recordAll, ih, inserted, List.map_cons, List.mem_cons]
      tauto

/-- An entry of the map holds the counters of its backend. -/
theorem backend_of_mem_entries {entry : Sigma fun _ : SocketAddr => BackendMetrics}
    (member : entry ∈ metrics.perBackend.entries) : metrics.backend entry.1 = entry.2 := by
  have found : metrics.perBackend.lookup entry.1 = some entry.2 :=
    AList.mem_lookup_iff.mpr member
  rw [backend, found, Option.getD_some]

/-- Sums over the map are sums over its backends. -/
theorem sum_entries (count : BackendMetrics → Nat) :
    (metrics.perBackend.entries.map fun entry => count entry.2).sum =
      (metrics.perBackend.keys.map fun addr => count (metrics.backend addr)).sum := by
  rw [AList.keys, List.keys, List.map_map]
  congr 1
  apply List.map_congr_left
  intro entry member
  rw [Function.comp_apply, backend_of_mem_entries metrics member]

/-- Counting each of several distinct values in a list counts the list. -/
theorem sum_map_count {α : Type} [DecidableEq α] {values : List α} (distinct : values.Nodup)
    {items : List α} (covered : ∀ item ∈ items, item ∈ values) :
    (values.map fun value => items.count value).sum = items.length := by
  have counted : ∑ value ∈ values.toFinset, (items : Multiset α).count value =
      Multiset.card (items : Multiset α) := by
    apply Multiset.sum_count_eq_card
    intro item member
    rw [List.mem_toFinset]
    exact covered item member
  rw [List.sum_toFinset _ distinct] at counted
  simpa only [Multiset.coe_count, Multiset.coe_card] using counted

variable {all}

theorem backend_default (addr : SocketAddr) :
    Metrics.default.backend addr = { requests := 0, errors := 0 } := by
  simp [backend, default]

theorem mem_keys_default {addr : SocketAddr} :
    addr ∈ (Metrics.default.recordAll all).perBackend.keys ↔ addr ∈ all.map (·.backend) := by
  rw [← AList.mem_keys, mem_perBackend_recordAll]
  exact or_iff_right (AList.notMem_empty addr)

/-- What stays below the limit does not wrap. -/
theorem val_ofNat {count : Nat} (fits : count < u64Limit) :
    ((0 : U64) + Fin.ofNat u64Limit count).val = count := by
  rw [zero_add, Fin.val_ofNat, Nat.mod_eq_of_lt fits]

theorem requestsTo_eq_count (addr : SocketAddr) :
    requestsTo addr all = (all.map (·.backend)).count addr := by
  rw [requestsTo, List.count, List.countP_map]
  apply List.countP_congr
  intro stats _
  simp

theorem errorsOf_eq_count (addr : SocketAddr) :
    errorsOf addr all =
      ((all.filter (·.outcome = .error)).map (·.backend)).count addr := by
  rw [errorsOf, List.count, List.countP_map, List.countP_filter]
  apply List.countP_congr
  intro stats _
  simp

/-- The counters of a backend while the number of requests stays below the
limit. -/
theorem backend_default_recordAll (fits : all.length < u64Limit) (addr : SocketAddr) :
    ((Metrics.default.recordAll all).backend addr).requests.val = requestsTo addr all ∧
      ((Metrics.default.recordAll all).backend addr).errors.val = errorsOf addr all := by
  have requestsFit : requestsTo addr all < u64Limit :=
    List.countP_le_length.trans_lt fits
  have errorsFit : errorsOf addr all < u64Limit :=
    List.countP_le_length.trans_lt fits
  rw [backend_recordAll, backend_default]
  exact ⟨val_ofNat requestsFit, val_ofNat errorsFit⟩

theorem sum_requests (fits : all.length < u64Limit) :
    ((Metrics.default.recordAll all).perBackend.entries.map (·.2.requests.val)).sum =
      all.length := by
  rw [sum_entries _ fun counters => counters.requests.val]
  simp only [backend_default_recordAll fits, requestsTo_eq_count]
  rw [sum_map_count (AList.keys_nodup _), List.length_map]
  intro addr member
  exact mem_keys_default.mpr member

theorem sum_errors (fits : all.length < u64Limit) :
    ((Metrics.default.recordAll all).perBackend.entries.map (·.2.errors.val)).sum =
      all.countP (·.outcome = .error) := by
  rw [sum_entries _ fun counters => counters.errors.val]
  simp only [backend_default_recordAll fits, errorsOf_eq_count]
  rw [sum_map_count (AList.keys_nodup _), List.length_map, List.countP_eq_length_filter]
  intro addr member
  obtain ⟨stats, inErrors, same⟩ := List.mem_map.mp member
  rw [mem_keys_default]
  exact List.mem_map.mpr ⟨stats, (List.mem_filter.mp inErrors).1, same⟩

/-- The map has exactly the backends with requests. -/
theorem lookup_default_recordAll (addr : SocketAddr) :
    (Metrics.default.recordAll all).perBackend.lookup addr =
      if requestsTo addr all = 0 then none
      else some ((Metrics.default.recordAll all).backend addr) := by
  have present : addr ∈ (Metrics.default.recordAll all).perBackend ↔
      requestsTo addr all ≠ 0 := by
    rw [mem_perBackend_recordAll, requestsTo_eq_count, ← List.count_pos_iff,
      Nat.pos_iff_ne_zero]
    exact or_iff_right (AList.notMem_empty addr)
  split
  case isTrue none =>
      rw [AList.lookup_eq_none, present]
      exact not_not.mpr none
  case isFalse some =>
      obtain ⟨counters, found⟩ := Option.isSome_iff_exists.mp
        (AList.lookup_isSome.mpr (present.mpr some))
      rw [backend, found, Option.getD_some]

theorem requestsTo_perm {other : List RequestStats} (perm : all.Perm other)
    (addr : SocketAddr) : requestsTo addr all = requestsTo addr other :=
  perm.countP_eq _

theorem errorsOf_perm {other : List RequestStats} (perm : all.Perm other)
    (addr : SocketAddr) : errorsOf addr all = errorsOf addr other :=
  perm.countP_eq _

/-- The snapshot does not depend on the order of the requests, up to the last
one. -/
theorem snapshot_perm {other : List RequestStats} (perm : all.Perm other)
    (last : all.getLast? = other.getLast?) (droppedLogs : U64) :
    (Metrics.default.recordAll all).snapshot droppedLogs =
      (Metrics.default.recordAll other).snapshot droppedLogs := by
  have samePerBackend : (Metrics.default.recordAll all).perBackend.toFinmap =
      (Metrics.default.recordAll other).perBackend.toFinmap := by
    apply Finmap.ext_lookup
    intro addr
    rw [Finmap.lookup_toFinmap, Finmap.lookup_toFinmap, lookup_default_recordAll,
      lookup_default_recordAll, backend_recordAll, backend_recordAll, requestsTo_perm perm,
      errorsOf_perm perm]
  have sameBytes := (perm.map fun stats => stats.requestLen + stats.responseLen).sum_eq
  have sameDuration := (perm.map (·.duration)).sum_eq
  simp only [snapshot, totalRequests_recordAll, totalBytesProxied_recordAll,
    totalDuration_recordAll, lastRequestDuration_recordAll, poolRejected_recordAll,
    samePerBackend, sameBytes, sameDuration, perm.length_eq, last]

/-- What the metrics say about the requests. -/
structure Consistent (all : List RequestStats) (metrics : Metrics)
    (snapshot : MetricsSnapshot) : Prop where
  total : snapshot.totalRequests.val = all.length
  requests : (snapshot.perBackend.entries.map (·.2.requests.val)).sum = all.length
  backends : ∀ addr, (snapshot.perBackend.lookup addr).map
    (fun counters => (counters.requests.val, counters.errors.val)) =
      if requestsTo addr all = 0 then none else some (requestsTo addr all, errorsOf addr all)
  errorsLe : ∀ addr counters, snapshot.perBackend.lookup addr = some counters →
    counters.errors ≤ counters.requests
  errors : (snapshot.perBackend.entries.map (·.2.errors.val)).sum =
    all.countP (·.outcome = .error)
  bytes : snapshot.totalBytesProxied.val =
    (all.map fun stats => stats.requestLen + stats.responseLen).sum
  largest : metrics.largestRequestBytes = (all.map (·.requestLen)).max?.getD 0

theorem errorsOf_le (addr : SocketAddr) : errorsOf addr all ≤ requestsTo addr all := by
  rw [requestsTo_eq]
  exact Nat.le_add_left _ _

theorem largest_default_recordAll :
    (Metrics.default.recordAll all).largestRequestBytes =
      (all.map (·.requestLen)).max?.getD 0 := by
  rw [largestRequestBytes_recordAll]
  cases all with
  | nil => rfl
  | cons stats others =>
      rw [List.map_cons, List.max?_cons', Option.getD_some, List.foldl_cons]
      congr 1

/-- As long as the sums stay below the limit, the totals are those of the
requests, and the snapshot does not depend on their order, up to the last one. -/
theorem totals_consistent (requestsFit : all.length < u64Limit)
    (bytesFit : (all.map fun stats => stats.requestLen + stats.responseLen).sum < u64Limit)
    (droppedLogs : U64) :
    Consistent all (Metrics.default.recordAll all)
        ((Metrics.default.recordAll all).snapshot droppedLogs) ∧
      ∀ other, all.Perm other → all.getLast? = other.getLast? →
        (Metrics.default.recordAll other).snapshot droppedLogs =
          (Metrics.default.recordAll all).snapshot droppedLogs := by
  have lookup : ∀ addr, ((Metrics.default.recordAll all).snapshot
      droppedLogs).perBackend.lookup addr = if requestsTo addr all = 0 then none
        else some ((Metrics.default.recordAll all).backend addr) := by
    intro addr
    exact (Finmap.lookup_toFinmap addr _).trans (lookup_default_recordAll addr)
  constructor
  · constructor
    case total =>
        change (Metrics.default.recordAll all).totalRequests.val = _
        rw [totalRequests_recordAll]
        exact val_ofNat requestsFit
    case requests => exact sum_requests requestsFit
    case backends =>
        intro addr
        obtain ⟨requests, errors⟩ := backend_default_recordAll requestsFit addr
        rw [lookup]
        split
        · rfl
        · rw [Option.map_some, requests, errors]
    case errorsLe =>
        intro addr counters found
        obtain ⟨requests, errors⟩ := backend_default_recordAll requestsFit addr
        rw [lookup] at found
        split at found
        · cases found
        · cases found
          rw [Fin.le_def, requests, errors]
          exact errorsOf_le addr
    case errors => exact sum_errors requestsFit
    case bytes =>
        change (Metrics.default.recordAll all).totalBytesProxied.val = _
        rw [totalBytesProxied_recordAll]
        exact val_ofNat bytesFit
    case largest => exact largest_default_recordAll
  · intro other perm last
    exact (snapshot_perm perm last droppedLogs).symm

/-- A request of ten milliseconds. -/
def sampleStats : RequestStats where
  reqId := 1
  workerId := 0
  backend := .v4 localhost 8080
  requestLen := 100
  responseLen := 200
  duration := Duration.fromMillis 10
  outcome := .ok
  statusCode := some 200

def failedStats : RequestStats :=
  { sampleStats with backend := .v4 localhost 8081, responseLen := 0, outcome := .error }

theorem totals_consistent_samples :
    ((Metrics.default.recordAll [sampleStats, failedStats, sampleStats]).snapshot
        0).totalBytesProxied.val = 700 ∧
      (Metrics.default.recordAll [failedStats, sampleStats, sampleStats]).snapshot 0 =
        (Metrics.default.recordAll [sampleStats, failedStats, sampleStats]).snapshot 0 := by
  have requestsFit : [sampleStats, failedStats, sampleStats].length < u64Limit := by decide
  obtain ⟨consistent, order⟩ := totals_consistent requestsFit (by decide) 0
  exact ⟨consistent.bytes, order _ (List.Perm.swap _ _ _) rfl⟩

end Metrics

end Mzani
