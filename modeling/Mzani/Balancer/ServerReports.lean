import Mzani.Balancer.ServerMetrics

/-!
# The reports of the aggregator

What the aggregator of a running server sends to the log: a record for every
request that it adds up, and a snapshot of the metrics after every hundredth one
and after those where it finds its interval over.
-/

namespace Mzani

open Support

variable {Stream : Type}

/-- What the aggregator sends. -/
def Output.reports : Output Stream → Option LogRecord
  | .reported record => some record
  | _ => none

/-- A turn of the aggregator: the statistics, whether it finds its interval over, and
how many connections have been rejected when it sends a snapshot. -/
structure Round where
  stats : RequestStats
  elapsed : Bool
  rejected : Nat

namespace Round

/-- A snapshot follows, if it is the round with this number. -/
def due (round : Round) (number : Nat) : Bool :=
  decide (number % u64Limit % metricsSnapshotEveryN = 0) || round.elapsed

/-- The metrics after some rounds and rejections. -/
def metrics (rounds : List Round) (rejections : Nat) : Metrics :=
  { Metrics.default.recordAll (rounds.map (·.stats)) with
    poolRejected := Fin.ofNat u64Limit rejections }

def metricsRecord (round : Round) : LogRecord :=
  round.stats.toMetricsRecord ⟨round.stats.reqId, round.stats.workerId⟩

section

variable (snapshotRecord : Metrics → LogRecord)

/-- The records of a round after others. -/
def records (before : List Round) (round : Round) : List LogRecord :=
  round.metricsRecord ::
    if round.due (before.length + 1) = true then
      [snapshotRecord (metrics (before ++ [round]) round.rejected)]
    else []

/-- The records of all rounds. -/
def told (before : List Round) : List Round → List LogRecord
  | [] => []
  | round :: rounds => round.records snapshotRecord before ++ told (before ++ [round]) rounds

variable {snapshotRecord}

theorem told_concat (before rounds : List Round) (round : Round) :
    told snapshotRecord before (rounds ++ [round]) =
      told snapshotRecord before rounds ++ round.records snapshotRecord (before ++ rounds) := by
  induction rounds generalizing before with
  | nil => simp [told]
  | cons first rounds ih =>
      rw [List.cons_append, told, told, ih, List.append_assoc, List.append_assoc,
        List.singleton_append]

theorem told_concat_of_due {rounds : List Round} {round : Round}
    (isDue : round.due (rounds.length + 1) = true) :
    told snapshotRecord [] (rounds ++ [round]) =
      told snapshotRecord [] rounds ++ [round.metricsRecord] ++
        [snapshotRecord (metrics (rounds ++ [round]) round.rejected)] := by
  rw [told_concat, List.nil_append, records, if_pos isDue, List.append_assoc,
    List.singleton_append]

theorem told_concat_of_not_due {rounds : List Round} {round : Round}
    (notDue : ¬ round.due (rounds.length + 1) = true) :
    told snapshotRecord [] (rounds ++ [round]) =
      told snapshotRecord [] rounds ++ [round.metricsRecord] := by
  rw [told_concat, List.nil_append, records, if_neg notDue]

theorem metrics_concat (rounds : List Round) (round : Round) (rejections : Nat) :
    metrics (rounds ++ [round]) rejections =
      (metrics rounds rejections).recordRequest round.stats := by
  have both : Metrics.default.recordAll ((rounds ++ [round]).map (·.stats)) =
      (Metrics.default.recordAll (rounds.map (·.stats))).recordRequest round.stats := by
    rw [List.map_append]
    exact List.foldl_append
  rw [metrics, both]
  rfl

theorem metrics_add (rounds : List Round) (rejections more : Nat) :
    { metrics rounds rejections with
        poolRejected := (metrics rounds rejections).poolRejected + Fin.ofNat u64Limit more } =
      metrics rounds (rejections + more) := by
  rw [metrics, metrics, Metrics.ofNat_add]

end

end Round

/-! ## Steps of others -/

namespace Observability

/-- The aggregator stays where it is. -/
structure Aside (state next : Observability) : Prop where
  aggregator : next.aggregator = state.aggregator
  requestCount : next.requestCount = state.requestCount

variable {state next : Observability}

theorem Aside.refl (state : Observability) : Aside state state := ⟨rfl, rfl⟩

theorem Aside.trans {last : Observability} (first : Aside state next)
    (second : Aside next last) : Aside state last := by
  constructor
  · exact second.aggregator.trans first.aggregator
  · exact second.requestCount.trans first.requestCount

theorem aside_send (state : Observability) (emitter : Emitter) (record : LogRecord) :
    Aside state (state.send emitter record) := by
  unfold send
  split <;> exact ⟨rfl, rfl⟩

theorem aside_emit (state : Observability) (emission : Emission) :
    Aside state (state.emit emission).1 := by
  cases emission with
  | sending record =>
      unfold emit
      dsimp only
      split <;> exact ⟨rfl, rfl⟩
  | counting => exact ⟨rfl, rfl⟩
  | warning prev => exact aside_send state .warning _

theorem aside_emitLog (state : Observability) (record : LogRecord) :
    Aside state (state.emitLog record) := by
  have first := aside_emit state (.sending record)
  unfold emitLog
  generalize state.emit (.sending record) = sending at first
  obtain ⟨middle, waiting⟩ := sending
  cases waiting with
  | none => exact first
  | some waiting =>
      have counting := aside_emit middle .counting
      dsimp only
      generalize middle.emit .counting = counted at counting
      obtain ⟨last, warning⟩ := counted
      cases warning with
      | none => exact first.trans counting
      | some warning => exact (first.trans counting).trans (aside_emit last warning)

theorem aside_foldl (state : Observability) (records : List LogRecord) :
    Aside state (records.foldl (·.send .sink ·) state) := by
  induction records generalizing state with
  | nil => exact .refl state
  | cons record records ih => exact (aside_send state .sink record).trans (ih _)

theorem aside_recordMetrics (state : Observability) (stats : RequestStats) :
    Aside state (state.recordMetrics stats) := by
  unfold recordMetrics
  split <;> exact ⟨rfl, rfl⟩

theorem aside_write (written : state.write = some next) : Aside state next := by
  unfold write at written
  split at written
  · cases written
    exact ⟨rfl, rfl⟩
  · cases written
    exact ⟨rfl, rfl⟩
  · cases written

end Observability

namespace Server

open Observability

variable {server next : Server Stream} {output : Output Stream}

/-- A step that is not one of the aggregator. -/
structure Apart (server next : Server Stream) (output : Output Stream) : Prop where
  aside : Aside server.observability next.observability
  silent : output.reports = none

theorem Apart.of_same (same : next.observability = server.observability)
    (silent : output.reports = none) : Apart server next output := by
  constructor
  · rw [same]
    exact .refl server.observability
  · exact silent

theorem apart_logAccept (entry : LogEntry) :
    Apart server (server.logAccept entry).1 (server.logAccept entry).2 :=
  ⟨aside_emitLog server.observability entry.record, rfl⟩

theorem apart_reject (stream : Stream) (error : MzaniError) :
    Apart server (server.reject stream error).1 (server.reject stream error).2 := by
  cases error with
  | poolFull =>
      let observability := server.observability
      let counted :=
        { observability with metrics := observability.metrics.recordPoolRejected }
      have counts : Aside observability counted := ⟨rfl, rfl⟩
      exact ⟨counts.trans (aside_emitLog counted poolSaturated), rfl⟩
  | shutdownInProgress => exact .of_same rfl rfl
  | _ => exact apart_logAccept _

theorem apart_accept [DecidableEq Stream] {stream : Stream}
    {setReadTimeout : Duration → Except IoError Unit}
    (taken : server.accept stream setReadTimeout = some (next, output)) :
    Apart server next output := by
  unfold accept at taken
  split at taken
  · cases taken
  · split at taken
    · cases taken
      exact apart_logAccept _
    · split at taken
      · cases taken
        exact .of_same rfl rfl
      · obtain ⟨pool, entered, same⟩ := Option.map_eq_some_iff.mp taken
        cases same
        exact .of_same rfl rfl

theorem apart_submit (taken : server.submit = some (next, output)) :
    Apart server next output := by
  unfold submit at taken
  split at taken
  case h_1 => cases taken
  case h_2 pool advanced =>
      split at taken
      · cases taken
        exact .of_same rfl rfl
      case h_2 stream error _ _ =>
          have rejected := @apart_reject _ { server with pool } stream error
          rw [Option.some.inj taken] at rejected
          exact ⟨rejected.aside, rejected.silent⟩

theorem apart_goOn {worker : Nat} {task : Task}
    (taken : server.goOn worker task = some (next, output)) : Apart server next output := by
  cases task with
  | done result =>
      obtain ⟨pool, worked, same⟩ := Option.map_eq_some_iff.mp taken
      cases same
      exact .of_same rfl rfl
  | perform effect rest =>
      cases taken
      cases effect with
      | emitLog record => exact ⟨aside_emitLog _ record, rfl⟩
      | recordMetrics stats => exact ⟨aside_recordMetrics _ stats, rfl⟩
      | _ => exact .of_same rfl rfl
  | select rest =>
      cases taken
      exact .of_same rfl rfl

theorem apart_work {worker : Nat} (taken : server.work worker = some (next, output)) :
    Apart server next output := by
  unfold work at taken
  split at taken
  · exact apart_goOn taken
  · split at taken
    · cases taken
    · obtain ⟨pool, worked, same⟩ := Option.map_eq_some_iff.mp taken
      cases same
      refine .of_same rfl ?_
      unfold refusal
      split <;> rfl

theorem apart_call {σ τ : Type} [Read σ] [Read τ] {worker : Nat} {meets : Meets σ τ}
    (taken : server.call worker meets = some (next, output)) : Apart server next output := by
  unfold call at taken
  split at taken
  · obtain ⟨pool, worked, same⟩ := Option.map_eq_some_iff.mp taken
    cases same
    exact .of_same rfl rfl
  · cases taken

theorem apart_write {observability : Observability}
    (taken : server.observability.write = some observability) :
    Apart server { server with observability } (written server.observability) := by
  refine ⟨aside_write taken, ?_⟩
  unfold written
  split <;> rfl

theorem apart_watch (connects : Duration → Bool) :
    Apart server (server.watch connects).1 (server.watch connects).2 := by
  unfold watch
  split
  · exact .of_same rfl rfl
  · exact .of_same rfl rfl
  · exact ⟨aside_foldl server.observability _, rfl⟩
  · split <;> exact .of_same rfl rfl

/-- Every step is one of the aggregator or leaves it alone. -/
theorem aggregates_or_apart [DecidableEq Stream] {σ τ : Type} [Read σ] [Read τ]
    {snapshotRecord : Metrics → LogRecord} {event : Event Stream σ τ}
    (taken : server.step snapshotRecord event = some (next, output)) :
    (∃ elapsed, event = .aggregate elapsed ∧
        server.observability.aggregate snapshotRecord elapsed = some next.observability ∧
        output = report snapshotRecord server.observability) ∨
      Apart server next output := by
  cases event with
  | accept stream setReadTimeout => exact .inr (apart_accept taken)
  | acceptError error =>
      simp only [step] at taken
      split at taken
      · cases taken
        exact .inr (apart_logAccept _)
      · cases taken
  | submit => exact .inr (apart_submit taken)
  | work worker => exact .inr (apart_work taken)
  | call worker meets => exact .inr (apart_call taken)
  | aggregate elapsed =>
      obtain ⟨observability, aggregated, same⟩ := Option.map_eq_some_iff.mp taken
      cases same
      exact .inl ⟨elapsed, rfl, aggregated, rfl⟩
  | write =>
      obtain ⟨observability, wrote, same⟩ := Option.map_eq_some_iff.mp taken
      cases same
      exact .inr (apart_write wrote)
  | monitor connects =>
      have watched := @apart_watch _ server connects
      rw [Option.some.inj taken] at watched
      exact .inr watched

/-! ## The account of the reports -/

/-- How far the records of the rounds have been sent. -/
inductive Told (snapshotRecord : Metrics → LogRecord) :
    Aggregating → List Round → List LogRecord → Prop where
  | receiving (rounds : List Round) :
      Told snapshotRecord .receiving rounds (Round.told snapshotRecord [] rounds)
  | received (stats : RequestStats) (rounds : List Round) :
      Told snapshotRecord (.received stats) rounds (Round.told snapshotRecord [] rounds)
  | reporting (rounds : List Round) (round : Round) :
      Told snapshotRecord (.reporting round.stats (round.due (rounds.length + 1)))
        (rounds ++ [round]) (Round.told snapshotRecord [] rounds)
  | snapshotting (rounds : List Round) (round : Round) : round.due (rounds.length + 1) = true →
      Told snapshotRecord .snapshotting (rounds ++ [round])
        (Round.told snapshotRecord [] rounds ++ [round.metricsRecord])

/-- What is left to be sent is of the last round. -/
theorem Told.pending {snapshotRecord : Metrics → LogRecord} {aggregator : Aggregating}
    {rounds : List Round} {reported : List LogRecord}
    (told : Told snapshotRecord aggregator rounds reported) :
    ∃ pending, Round.told snapshotRecord [] rounds = reported ++ pending ∧ pending.length ≤ 2 ∧
      (aggregator = .receiving → pending = []) := by
  cases told with
  | receiving => exact ⟨[], (List.append_nil _).symm, Nat.zero_le 2, fun _ => rfl⟩
  | received => exact ⟨[], (List.append_nil _).symm, Nat.zero_le 2, fun _ => rfl⟩
  | reporting done round =>
      refine ⟨_, Round.told_concat [] done round, ?_, fun idle => by cases idle⟩
      unfold Round.records
      split
      · exact le_rfl
      · exact Nat.le_succ 1
  | snapshotting done round isDue =>
      exact ⟨[snapshotRecord (Round.metrics (done ++ [round]) round.rejected)],
        Round.told_concat_of_due isDue, Nat.le_succ 1, fun idle => by cases idle⟩

/-- The later rounds have these statistics besides, and no interval ended in
them unless in the first ones or then. -/
structure Later (rounds later : List Round) (added : List RequestStats) (ended : Prop) : Prop where
  stats : later.map (·.stats) = rounds.map (·.stats) ++ added
  elapsed : ∀ round ∈ later, round.elapsed = true →
    (∃ other ∈ rounds, other.elapsed = true) ∨ ended

namespace Later

variable {rounds later : List Round} {added : List RequestStats} {ended : Prop}

theorem refl (rounds : List Round) : Later rounds rounds [] ended :=
  ⟨(List.append_nil _).symm, fun round listed elapsed => .inl ⟨round, listed, elapsed⟩⟩

theorem mono {also : Prop} (grows : Later rounds later added ended) (implies : ended → also) :
    Later rounds later added also :=
  ⟨grows.stats, fun round listed elapsed => (grows.elapsed round listed elapsed).imp_right implies⟩

theorem trans {last : List Round} {more : List RequestStats}
    (first : Later rounds later added ended) (second : Later later last more ended) :
    Later rounds last (added ++ more) ended := by
  constructor
  · rw [second.stats, first.stats, List.append_assoc]
  · intro round listed elapsed
    rcases second.elapsed round listed elapsed with ⟨other, before, alsoElapsed⟩ | now
    · exact first.elapsed other before alsoElapsed
    · exact .inr now

theorem concat (rounds : List Round) (round : Round) :
    Later rounds (rounds ++ [round]) [round.stats] (round.elapsed = true) := by
  constructor
  · exact List.map_append
  · intro other listed elapsed
    rcases List.mem_append.mp listed with before | new
    · exact .inl ⟨other, before, elapsed⟩
    · rw [List.mem_singleton.mp new] at elapsed
      exact .inr elapsed

/-- Only the rejections that the last round shows change. -/
theorem replace (rounds : List Round) (round : Round) (rejected : Nat) :
    Later (rounds ++ [round]) (rounds ++ [{ round with rejected }]) [] ended := by
  constructor
  · rw [List.map_append, List.map_append, List.append_nil]
    rfl
  · intro other listed elapsed
    rcases List.mem_append.mp listed with before | new
    · exact .inl ⟨other, List.mem_append_left _ before, elapsed⟩
    · rw [List.mem_singleton.mp new] at elapsed
      exact .inl ⟨round, List.mem_append_right _ (List.mem_singleton_self _), elapsed⟩

end Later

/-- The rounds so far, the records of them that were sent, and the rejections. -/
structure Accounts (snapshotRecord : Metrics → LogRecord) (state : Observability)
    (rounds : List Round) (reported : List LogRecord) (rejections : Nat) : Prop where
  told : Told snapshotRecord state.aggregator rounds reported
  metrics : state.metrics = Round.metrics rounds rejections
  requestCount : state.requestCount =
    Fin.ofNat u64Limit (rounds.length + state.aggregator.untold.length)
  rejected : (rounds.map (·.rejected) ++ [rejections]).Pairwise (· ≤ ·)

section

variable {snapshotRecord : Metrics → LogRecord} {state after : Observability}
  {rounds : List Round} {reported : List LogRecord} {rejections : Nat}

theorem pairwise_le_grow {numbers : List Nat} {last more : Nat}
    (sorted : (numbers ++ [last]).Pairwise (· ≤ ·)) (le : last ≤ more) :
    (numbers ++ [more]).Pairwise (· ≤ ·) := by
  simp only [List.pairwise_append, List.mem_singleton, forall_eq] at sorted ⊢
  exact ⟨sorted.1, List.pairwise_singleton _ _, fun number listed =>
    (sorted.2.2 number listed).trans le⟩

theorem pairwise_le_repeat {numbers : List Nat} {last : Nat}
    (sorted : (numbers ++ [last]).Pairwise (· ≤ ·)) :
    (numbers ++ [last] ++ [last]).Pairwise (· ≤ ·) := by
  simp only [List.pairwise_append, List.mem_singleton, forall_eq, List.mem_append] at sorted ⊢
  refine ⟨⟨sorted.1, List.pairwise_singleton _ _, sorted.2.2⟩, List.pairwise_singleton _ _, ?_⟩
  rintro number (listed | rfl)
  · exact sorted.2.2 number listed
  · exact le_rfl

/-- The second last number is replaced by the last one. -/
theorem pairwise_le_replace {numbers : List Nat} {number last : Nat}
    (sorted : (numbers ++ [number] ++ [last]).Pairwise (· ≤ ·)) :
    (numbers ++ [last] ++ [last]).Pairwise (· ≤ ·) := by
  have parts := List.pairwise_append.mp sorted
  apply pairwise_le_repeat
  refine List.pairwise_append.mpr
    ⟨(List.pairwise_append.mp parts.1).1, List.pairwise_singleton _ _, ?_⟩
  intro first listed more isLast
  rw [List.mem_singleton.mp isLast]
  exact parts.2.2 first (List.mem_append_left _ listed) last (List.mem_singleton_self _)

/-- A step of another thread. -/
theorem Accounts.aside {recorded : List RequestStats} {more : Nat} {refused : List RequestStats}
    (accounts : Accounts snapshotRecord state rounds reported rejections)
    (aside : Aside state after) (meters : Meters state after recorded [] more refused) :
    Accounts snapshotRecord after rounds reported (rejections + more) := by
  constructor
  · rw [aside.aggregator]
    exact accounts.told
  · rw [meters.metrics, accounts.metrics]
    exact Round.metrics_add rounds rejections more
  · rw [aside.requestCount, aside.aggregator]
    exact accounts.requestCount
  · exact pairwise_le_grow accounts.rejected (Nat.le_add_right _ _)

/-- A step of the aggregator begins a round, or sends a record of the last one. -/
theorem Accounts.aggregate {elapsed : Bool} (senders : state.stats.senders ≠ 0)
    (accounts : Accounts snapshotRecord state rounds reported rejections)
    (taken : state.aggregate snapshotRecord elapsed = some after) :
    ∃ later, Accounts snapshotRecord after later
        (reported ++ (report snapshotRecord state : Output Stream).reports.toList) rejections ∧
      Later rounds later state.aggregator.untold (elapsed = true) := by
  obtain ⟨told, metrics, requestCount, rejected⟩ := accounts
  unfold Observability.aggregate at taken
  split at taken
  case h_1 receiving =>
      split at taken
      case h_1 stats channel answer =>
          cases taken
          rw [receiving] at told requestCount
          cases told
          refine ⟨rounds, ⟨?_, metrics, ?_, rejected⟩, ?_⟩
          · rw [report, receiving]
            simpa [Output.reports] using @Told.received snapshotRecord stats rounds
          · dsimp only [Aggregating.untold]
            rw [requestCount]
            exact (Metrics.ofNat_add rounds.length 1).symm
          · rw [receiving]
            exact .refl rounds
      case h_2 gone => exact absurd (Channel.recv_eq_disconnected_iff.mp gone).2 senders
      case h_3 => cases taken
  case h_2 stats received =>
      cases taken
      rw [received] at told requestCount
      cases told
      let round : Round := { stats, elapsed, rejected := rejections }
      have due : (decide (state.requestCount.val % metricsSnapshotEveryN = 0) || elapsed) =
          round.due (rounds.length + 1) := by
        rw [requestCount]
        rfl
      refine ⟨rounds ++ [round], ⟨?_, ?_, ?_, ?_⟩, ?_⟩
      · rw [report, received, due]
        simpa [Output.reports] using @Told.reporting snapshotRecord rounds round
      · dsimp only
        rw [metrics, Round.metrics_concat]
      · dsimp only [Aggregating.untold]
        rw [requestCount, List.length_append]
        rfl
      · rw [List.map_append]
        exact pairwise_le_repeat rejected
      · rw [received]
        exact .concat rounds round
  case h_3 stats due reporting =>
      cases taken
      have sent := @sameStats_send state .aggregator
        (stats.toMetricsRecord ⟨stats.reqId, stats.workerId⟩)
      have stays := aside_send state .aggregator
        (stats.toMetricsRecord ⟨stats.reqId, stats.workerId⟩)
      rw [reporting] at told requestCount
      cases told with
      | reporting done round =>
          refine ⟨done ++ [round], ⟨?_, sent.metrics.trans metrics, ?_, rejected⟩, ?_⟩
          · rw [report, reporting]
            dsimp only
            by_cases isDue : round.due (done.length + 1) = true
            · rw [if_pos isDue]
              exact .snapshotting done round isDue
            · have waiting := @Told.receiving snapshotRecord (done ++ [round])
              rw [Round.told_concat_of_not_due isDue] at waiting
              rw [if_neg isDue]
              exact waiting
          · dsimp only
            rw [stays.requestCount, requestCount]
            split <;> rfl
          · rw [reporting]
            exact .refl _
  case h_4 snapshotting =>
      cases taken
      have sent := @sameStats_send state .aggregator (snapshotRecord state.metrics)
      have stays := aside_send state .aggregator (snapshotRecord state.metrics)
      rw [snapshotting] at told requestCount
      cases told with
      | snapshotting done round isDue =>
          -- the round shows the rejections that are known now
          let shown : Round := { round with rejected := rejections }
          have sameMetrics : Round.metrics (done ++ [shown]) rejections = state.metrics := by
            rw [metrics, Round.metrics, Round.metrics, List.map_append, List.map_append]
            rfl
          refine ⟨done ++ [shown], ⟨?_, sent.metrics.trans sameMetrics.symm, ?_, ?_⟩, ?_⟩
          · have waiting := @Told.receiving snapshotRecord (done ++ [shown])
            have shownDue : shown.due (done.length + 1) = true := isDue
            rw [Round.told_concat_of_due shownDue, sameMetrics] at waiting
            rw [report, snapshotting]
            exact waiting
          · dsimp only
            rw [stays.requestCount, requestCount, List.length_append, List.length_append]
            rfl
          · rw [List.map_append] at rejected ⊢
            exact pairwise_le_replace rejected
          · rw [snapshotting]
            exact .replace done round rejections
  case h_5 => cases taken

end

section

variable {σ τ : Type} [DecidableEq Stream] [Read σ] [Read τ]
  {snapshotRecord : Metrics → LogRecord} {event : Event Stream σ τ}
  {events : List (Event Stream σ τ)} {outputs : List (Output Stream)}
  {rounds : List Round} {reported : List LogRecord} {rejections : Nat}

theorem accounts_of_step (alive : server.observability.stats.Alive)
    (accounts : Accounts snapshotRecord server.observability rounds reported rejections)
    (taken : server.step snapshotRecord event = some (next, output)) :
    ∃ later added refused,
      Accounts snapshotRecord next.observability later (reported ++ output.reports.toList)
        (rejections + output.rejects.toNat) ∧
      Meters server.observability next.observability output.records.toList added
        output.rejects.toNat refused ∧
      Later rounds later added (event = .aggregate true) := by
  obtain ⟨added, refused, meters, settled⟩ := (observes_of_step taken).meters alive
  rcases aggregates_or_apart taken with ⟨elapsed, rfl, aggregated, rfl⟩ | apart
  · have exact := meters_aggregate alive aggregated
    obtain ⟨later, next, grows⟩ := @Accounts.aggregate Stream snapshotRecord _ _ _ _ _ _
      alive.senders accounts aggregated
    have neither : (report snapshotRecord server.observability : Output Stream).records = none ∧
        (report snapshotRecord server.observability : Output Stream).rejects = false := by
      unfold report
      split <;> exact ⟨rfl, rfl⟩
    rw [neither.1, neither.2]
    refine ⟨later, _, [], next, exact, grows.mono fun ended => ?_⟩
    rw [ended]
  · have nothing : added = [] := by
      rcases settled with nothing | ⟨untold, rest⟩
      · exact nothing
      · rw [untold, ← apart.aside.aggregator, rest]
    rw [nothing] at meters
    rw [apart.silent, Option.toList_none, List.append_nil]
    exact ⟨rounds, [], refused, accounts.aside apart.aside meters, meters, .refl rounds⟩

theorem accounts_of_run (alive : server.observability.stats.Alive)
    (accounts : Accounts snapshotRecord server.observability rounds reported rejections)
    (ran : (machine snapshotRecord).run server events = some (next, outputs)) :
    ∃ later added refused,
      Accounts snapshotRecord next.observability later
        (reported ++ outputs.filterMap Output.reports)
        (rejections + outputs.countP Output.rejects) ∧
      Meters server.observability next.observability (outputs.filterMap Output.records) added
        (outputs.countP Output.rejects) refused ∧
      Later rounds later added (.aggregate true ∈ events) := by
  induction events generalizing server rounds reported rejections outputs with
  | nil =>
      simp only [Transducer.run_nil, Option.some.injEq, Prod.mk.injEq] at ran
      obtain ⟨rfl, rfl⟩ := ran
      refine ⟨rounds, [], [], ?_, .refl server.observability, .refl rounds⟩
      rw [List.filterMap_nil, List.append_nil]
      exact accounts
  | cons event events ih =>
      obtain ⟨middle, output, rest, taken, went, rfl⟩ := Transducer.run_cons_eq_some_iff.mp ran
      obtain ⟨later, added, refused, first, meters, grows⟩ :=
        accounts_of_step alive accounts taken
      obtain ⟨received, carries, _⟩ := meters.stats
      obtain ⟨last, more, further, second, then_, grow⟩ := ih (carries.alive alive) first went
      refine ⟨last, added ++ more, refused ++ further, ?_, ?_, ?_⟩
      · rw [filterMap_cons_toList, countP_cons_toNat, ← List.append_assoc,
          ← Nat.add_assoc]
        exact second
      · rw [filterMap_cons_toList, countP_cons_toNat]
        exact meters.trans then_
      · refine (grows.mono fun same => ?_).trans (grow.mono fun listed => ?_)
        · rw [same]
          exact List.mem_cons_self
        · exact List.mem_cons_of_mem _ listed

end

/-- The interval is over when the failed request is added up. -/
def rejectedAndReported : List (Event Nat Source Source) :=
  rejectedAndFailed.dropLast ++ [.aggregate true, .aggregate false, .aggregate false]

end Server

end Mzani
