import Mzani.State.MetricsTotals

/-!
# Average latency

The total duration is divided by the number of requests as a `u32`, or else by
one: the average is one exactly up to `u32::MAX` requests, or if next to no time
has passed.
-/

namespace Mzani

open Support

namespace Metrics

def totalTime (all : List RequestStats) : Duration :=
  (all.map (·.duration)).sum

/-- What the average latency of the requests should be, in snapshots and in
reports. -/
structure Averages (all : List RequestStats) : Prop where
  average : ∀ droppedLogs, ((Metrics.default.recordAll all).snapshot droppedLogs).avgLatency =
    totalTime all / all.length
  least : ∀ bound, (∀ stats ∈ all, bound ≤ stats.duration) → ∀ droppedLogs,
    bound ≤ ((Metrics.default.recordAll all).snapshot droppedLogs).avgLatency
  greatest : ∀ bound, (∀ stats ∈ all, stats.duration ≤ bound) → ∀ droppedLogs,
    ((Metrics.default.recordAll all).snapshot droppedLogs).avgLatency ≤ bound
  shown : ∀ texts : ReportTexts,
    ReportTexts.line "Avg Latency       : " (Duration.debug (totalTime all / all.length)) <:+:
      texts.formatReport (Metrics.default.recordAll all)

/-- With more than `u32::MAX` requests, what the total is divided by: the wrapped
count or one, and the length where nothing is divided. -/
def divisor (all : List RequestStats) : Nat :=
  let counted := all.length % u64Limit
  if counted = 0 then all.length else if counted < u32Limit then counted else 1

variable {all : List RequestStats}

/-! ## Means -/

theorem mul_length_le_totalTime {bound : Duration}
    (low : ∀ stats ∈ all, bound ≤ stats.duration) : bound * all.length ≤ totalTime all := by
  induction all with
  | nil => exact Nat.le_refl 0
  | cons stats others ih =>
      have here := low stats List.mem_cons_self
      have rest := ih fun other member => low other (List.mem_cons_of_mem stats member)
      rw [List.length_cons, Nat.mul_succ, totalTime, List.map_cons, List.sum_cons, Nat.add_comm]
      exact Nat.add_le_add here rest

theorem totalTime_le_mul_length {bound : Duration}
    (high : ∀ stats ∈ all, stats.duration ≤ bound) : totalTime all ≤ bound * all.length := by
  induction all with
  | nil => exact Nat.le_refl 0
  | cons stats others ih =>
      have here := high stats List.mem_cons_self
      have rest := ih fun other member => high other (List.mem_cons_of_mem stats member)
      rw [List.length_cons, Nat.mul_succ, totalTime, List.map_cons, List.sum_cons, Nat.add_comm]
      exact Nat.add_le_add rest here

/-! ## What the code computes -/

/-- The average latency of snapshots, in terms of the requests. -/
theorem avgLatency_default_recordAll (all : List RequestStats) (droppedLogs : U64) :
    ((Metrics.default.recordAll all).snapshot droppedLogs).avgLatency =
      if all.length % u64Limit = 0 then 0
      else totalTime all / (if all.length % u64Limit < u32Limit then all.length % u64Limit
        else 1) := by
  have counted : (Metrics.default.recordAll all).totalRequests.val =
      all.length % u64Limit := by
    rw [totalRequests_recordAll]
    change ((0 : U64) + _).val = _
    rw [zero_add, Fin.val_ofNat]
  have time : (Metrics.default.recordAll all).totalDuration = totalTime all := by
    rw [totalDuration_recordAll]
    exact Nat.zero_add _
  simp only [snapshot, u32OrOne, Fin.lt_def, counted, time]
  by_cases none : all.length % u64Limit = 0
  · rw [if_pos none, none]
    rfl
  · rw [if_neg none]
    exact if_pos (Nat.pos_of_ne_zero none)

/-- Dividing by less than the length gives more, unless both give nothing. -/
theorem div_eq_div_iff {time counted length : Nat} (positive : 0 < counted)
    (small : counted < u32Limit) (wrapped : counted + u64Limit ≤ length) :
    time / counted = time / length ↔ time < counted := by
  constructor
  · intro same
    by_contra large
    have some : 1 ≤ time / counted :=
      (Nat.one_le_div_iff positive).mpr (Nat.le_of_not_lt large)
    have lower : time / counted * length ≤ time := by
      rw [same]
      exact Nat.div_mul_le_self time length
    have upper : time < counted * (time / counted + 1) := Nat.lt_mul_div_succ time positive
    have more : time / counted * (counted + u64Limit) ≤ time / counted * length :=
      Nat.mul_le_mul_left _ wrapped
    have limit : u64Limit ≤ time / counted * u64Limit := Nat.le_mul_of_pos_left _ some
    have limits : u32Limit < u64Limit := by decide
    rw [Nat.mul_add] at more
    rw [Nat.mul_succ, Nat.mul_comm] at upper
    omega
  · intro less
    rw [Nat.div_eq_of_lt less, Nat.div_eq_of_lt (by omega)]

theorem avgLatency_eq_iff (nonempty : all ≠ []) (droppedLogs : U64) :
    ((Metrics.default.recordAll all).snapshot droppedLogs).avgLatency =
        totalTime all / all.length ↔
      all.length < u32Limit ∨ totalTime all < divisor all := by
  have some : 0 < all.length := List.length_pos_iff.mpr nonempty
  have limits : u32Limit < u64Limit := by decide
  rw [avgLatency_default_recordAll, divisor]
  by_cases few : all.length < u32Limit
  · have exact : all.length % u64Limit = all.length := Nat.mod_eq_of_lt (few.trans limits)
    rw [exact, if_neg some.ne', if_pos few]
    exact iff_of_true rfl (Or.inl few)
  · rw [or_iff_right few]
    split
    case isTrue none =>
        rw [eq_comm, Nat.div_eq_zero_iff]
        exact or_iff_right some.ne'
    case isFalse counted =>
        split
        case isTrue small =>
            apply div_eq_div_iff (Nat.pos_of_ne_zero counted) small
            have whole := Nat.div_add_mod all.length u64Limit
            have wrapped : 0 < all.length / u64Limit := by
              by_contra zero
              rw [Nat.pos_iff_ne_zero, not_not] at zero
              rw [zero] at whole
              omega
            have once : u64Limit ≤ u64Limit * (all.length / u64Limit) :=
              Nat.le_mul_of_pos_right _ wrapped
            omega
        case isFalse large =>
            rw [Nat.div_one, Nat.lt_one_iff]
            constructor
            · intro same
              by_contra time
              have less := Nat.div_lt_self (Nat.pos_of_ne_zero time)
                (Nat.lt_of_lt_of_le (by decide : 1 < u32Limit) (Nat.le_of_not_lt few))
              exact less.ne same.symm
            · intro zero
              rw [zero, Nat.zero_div]

/-- The report computes the same average as the snapshot. -/
theorem avgLatency_shown (metrics : Metrics) (texts : ReportTexts) (droppedLogs : U64) :
    ReportTexts.line "Avg Latency       : "
        (Duration.debug (metrics.snapshot droppedLogs).avgLatency) <:+:
      texts.formatReport metrics := by
  unfold ReportTexts.formatReport
  simp only [List.append_assoc]
  iterate 5 apply List.IsInfix.trans _ (List.suffix_append _ _).isInfix
  exact (List.prefix_append _ _).isInfix

/-- The average latency is the average exactly if there are at most `u32::MAX`
requests, or less time has passed than would show. -/
theorem averages_iff (nonempty : all ≠ []) :
    Averages all ↔ all.length < u32Limit ∨ totalTime all < divisor all := by
  have some : 0 < all.length := List.length_pos_iff.mpr nonempty
  constructor
  · intro averages
    exact (avgLatency_eq_iff nonempty 0).mp (averages.average 0)
  · intro within
    have average := fun droppedLogs => (avgLatency_eq_iff nonempty droppedLogs).mpr within
    constructor
    case average => exact average
    case least =>
        intro bound low droppedLogs
        rw [average, Nat.le_div_iff_mul_le some]
        exact mul_length_le_totalTime low
    case greatest =>
        intro bound high droppedLogs
        rw [average]
        apply Nat.div_le_of_le_mul
        rw [Nat.mul_comm]
        exact totalTime_le_mul_length high
    case shown =>
        intro texts
        rw [← average 0]
        exact avgLatency_shown _ texts 0

/-- With one request more than `u32::MAX`, of ten milliseconds each, the average
is sixteen months. -/
theorem averages_replicate :
    ((Metrics.default.recordAll (List.replicate u32Limit sampleStats)).snapshot
        0).avgLatency = u32Limit * Duration.fromMillis 10 ∧
      ¬Averages (List.replicate u32Limit sampleStats) := by
  have length : (List.replicate u32Limit sampleStats).length = u32Limit :=
    List.length_replicate
  have time : totalTime (List.replicate u32Limit sampleStats) =
      u32Limit * Duration.fromMillis 10 := by
    rw [totalTime, List.map_replicate, List.sum_replicate]
    rfl
  have latency : ((Metrics.default.recordAll (List.replicate u32Limit sampleStats)).snapshot
      0).avgLatency = u32Limit * Duration.fromMillis 10 := by
    rw [avgLatency_default_recordAll, length, time]
    decide
  refine ⟨latency, ?_⟩
  intro averages
  have average := averages.average 0
  rw [latency, time, length] at average
  exact absurd average (by decide)

theorem averages_samples : Averages [sampleStats, failedStats] :=
  (averages_iff (List.cons_ne_nil _ _)).mpr (Or.inl (by decide))

end Metrics

end Mzani
