import Mzani.State.Observability
import Mzani.State.Reports
import Mzani.State.Retries

/-!
# From the workers to the metrics

The requests in the metrics, those on the way there, those that the metrics
channel refused and those whose response did not reach the client are together
the requests that were proxied, under every schedule.
-/

namespace Mzani

open Support

/-! ## One call -/

/-- The call reached `proxy_with_retries`. -/
def Handled.reachedProxy (handled : Handled) : Bool :=
  handled.proxied ≠ []

/-- A backend answered, and the call failed all the same. -/
def Handled.undelivered (handled : Handled) : Bool :=
  (handled.proxied.flatten.any fun made => made.result.toOption.isSome) &&
    handled.result ≠ .ok ()

/-- A proxied request is recorded, unless its response was not delivered. -/
structure Accounted (handled : Handled) : Prop where
  recorded : handled.stats.length + handled.undelivered.toNat = handled.reachedProxy.toNat

section

variable {σ τ : Type} [Read σ] [Read τ] {context : WorkerContext} {client : ClientSocket σ}
  {around : Surroundings τ} {req : RequestContext} {handled : Handled}

theorem any_answered_of_ok {retries : Context} {network : Network τ} {bytes : Bytes}
    {target : SocketAddr} {response : Bytes} {attempts : List Attempt}
    (proxied : retries.proxyWithRetries network bytes target = (.ok response, attempts)) :
    (attempts.any fun made => made.result.toOption.isSome) = true := by
  obtain ⟨attempt, served, rfl⟩ := proxyWithRetries_ok proxied
  apply List.any_eq_true.mpr
  refine ⟨retries.made network bytes target attempt, ?_, ?_⟩
  · apply List.mem_map_of_mem
    apply List.mem_range.mpr
    exact Nat.lt_succ_self attempt
  · rw [served.answer]
    rfl

theorem not_answered_of_error {retries : Context} {network : Network τ} {bytes : Bytes}
    {target : SocketAddr} {error : MzaniError} {attempts : List Attempt}
    (proxied : retries.proxyWithRetries network bytes target = (.error error, attempts)) :
    (attempts.any fun made => made.result.toOption.isSome) = false := by
  have ends := proxyWithRetries_ends retries network bytes target
  rw [proxied] at ends
  cases ends with
  | exhausted _ all _ =>
      apply List.any_eq_false.mpr
      intro made member
      obtain ⟨attempt, inside, rfl⟩ := List.mem_map.mp member
      obtain ⟨error, failed⟩ := all attempt (Nat.zero_le _) (by
        have bound := (List.mem_range'_1.mp inside).2
        omega)
      simp [failed, Except.toOption]

theorem accounted_of_reported (reported : Reported context client around req handled) :
    Accounted handled := by
  constructor
  cases reported with
  | unreached _ proxied stats =>
      simp [Handled.undelivered, Handled.reachedProxy, proxied, stats]
  | failed proxies proxied stats =>
      simp [Handled.undelivered, Handled.reachedProxy, proxied, stats,
        not_answered_of_error proxies.proxied]
  | undelivered proxies _ failed proxied stats =>
      simp [Handled.undelivered, Handled.reachedProxy, proxied, stats, failed,
        any_answered_of_ok proxies.proxied]
  | completed _ _ done proxied _ stats =>
      simp [Handled.undelivered, Handled.reachedProxy, proxied, stats, done]

theorem accounted_handleConnection :
    Accounted (context.handleConnection client around req) :=
  accounted_of_reported handleConnection_reported

/-- A call that only logs. -/
theorem accounted_event (record : LogRecord) :
    Accounted { effects := [.emitLog record], result := .ok () } :=
  ⟨rfl⟩

end

/-! ## What a thread has recorded -/

namespace Running

variable {running : Running}

/-- The statistics that the call has recorded so far. -/
def begun (running : Running) : List RequestStats :=
  (running.handled.effects.take running.position).filterMap Effect.stats?

theorem begun_next {effect : Effect} {emission : Option Emission}
    (next : running.handled.effects[running.position]? = some effect) :
    begun { running with position := running.position + 1, emission } =
      running.begun ++ effect.stats?.toList := by
  have inside : running.handled.effects.take (running.position + 1) =
      running.handled.effects.take running.position ++ [effect] := by
    rw [List.take_add_one, next]
    rfl
  rw [begun, inside, List.filterMap_append, ← begun]
  cases effect <;> rfl

theorem begun_returning (last : running.handled.effects[running.position]? = none) :
    running.begun = running.handled.stats := by
  rw [begun, List.take_of_length_le (List.getElem?_eq_none_iff.mp last)]
  rfl

end Running

namespace Observability

/-- The number of statistics that a thread has recorded in the call it is in. -/
def begun : Option Running → Nat
  | none => 0
  | some running => running.begun.length

@[simp] theorem begun_some (running : Running) :
    begun (some running) = running.begun.length := rfl

/-- The aggregator has received statistics and not yet added them up. -/
def held (state : Observability) : Nat :=
  match state.aggregator with
  | .received _ => 1
  | _ => 0

/-- No call that reaches `proxy_with_retries` is on. -/
def Idle (state : Observability) : Prop :=
  ∀ running, some running ∈ state.threads → running.handled.reachedProxy = false

/-- What holds of the statistics in every reachable state. -/
structure StatsInvariant (state : Observability) : Prop where
  returned : ∀ handled ∈ state.returned, Accounted handled
  running : ∀ running, some running ∈ state.threads → Accounted running.handled
  sent : state.stats.accepted.length + state.refusedStats.length =
    tally (·.stats.length) state.returned + tally begun state.threads
  counted : state.metrics.totalRequests + Fin.ofNat u64Limit state.held =
    Fin.ofNat u64Limit state.stats.received.length
  receiver : state.stats.receiver = true
  senders : 0 < state.stats.senders

/-! ## Steps -/

/-- A step on the log channel. -/
structure SameStats (before after : Observability) : Prop where
  stats : after.stats = before.stats
  metrics : after.metrics = before.metrics
  threads : after.threads = before.threads
  aggregator : after.aggregator = before.aggregator
  returned : after.returned = before.returned
  refusedStats : after.refusedStats = before.refusedStats

section

variable {state next : Observability}

theorem sameStats_send (emitter : Emitter) (record : LogRecord) :
    SameStats state (state.send emitter record) := by
  unfold send
  split <;> exact ⟨rfl, rfl, rfl, rfl, rfl, rfl⟩

theorem sameStats_emit (emission : Emission) : SameStats state (state.emit emission).1 := by
  cases emission with
  | sending record =>
      unfold emit
      dsimp only
      split <;> exact ⟨rfl, rfl, rfl, rfl, rfl, rfl⟩
  | counting => exact ⟨rfl, rfl, rfl, rfl, rfl, rfl⟩
  | warning prev => exact sameStats_send _ _

theorem sameStats_write (written : state.write = some next) : SameStats state next := by
  unfold write at written
  split at written
  · cases written
    exact ⟨rfl, rfl, rfl, rfl, rfl, rfl⟩
  · cases written
    exact ⟨rfl, rfl, rfl, rfl, rfl, rfl⟩
  · cases written

/-- The metrics channel takes the statistics or refuses them. -/
structure Records (before after : Observability) : Prop where
  metrics : after.metrics = before.metrics
  threads : after.threads = before.threads
  aggregator : after.aggregator = before.aggregator
  returned : after.returned = before.returned
  sent : after.stats.accepted.length + after.refusedStats.length =
    before.stats.accepted.length + before.refusedStats.length + 1
  received : after.stats.received = before.stats.received
  receiver : after.stats.receiver = before.stats.receiver
  senders : after.stats.senders = before.stats.senders

theorem records_recordMetrics (stats : RequestStats) (receiver : state.stats.receiver = true) :
    Records state (state.recordMetrics stats) := by
  unfold recordMetrics
  split
  case h_1 channel answer =>
      have sent := Channel.sent_of_trySend answer
      refine ⟨rfl, rfl, rfl, rfl, ?_, sent.sameReceived, sent.sameReceiver,
        sent.sameSenders⟩
      dsimp only
      rw [sent.accepted, List.length_append, List.length_singleton]
      omega
  case h_2 =>
      refine ⟨rfl, rfl, rfl, rfl, ?_, rfl, rfl, rfl⟩
      dsimp only
      rw [List.length_append, List.length_singleton]
      omega
  case h_3 gone =>
      rw [Channel.receiver_of_trySend gone] at receiver
      cases receiver

theorem StatsInvariant.same (invariant : state.StatsInvariant) (same : SameStats state next) :
    next.StatsInvariant := by
  constructor
  · rw [same.returned]
    exact invariant.returned
  · rw [same.threads]
    exact invariant.running
  · rw [same.stats, same.refusedStats, same.returned, same.threads]
    exact invariant.sent
  · unfold held
    rw [same.metrics, same.aggregator, same.stats]
    exact invariant.counted
  · rw [same.stats]
    exact invariant.receiver
  · rw [same.stats]
    exact invariant.senders

section

variable {thread : Nat} {old new : Option Running}

theorem accounted_setThread (invariant : state.StatsInvariant)
    (accounted : ∀ running, new = some running → Accounted running.handled) :
    ∀ running, some running ∈ (state.setThread thread new).threads →
      Accounted running.handled := by
  intro running member
  rcases List.mem_or_eq_of_mem_set member with before | here
  · exact invariant.running running before
  · exact accounted running here.symm

/-- A step of a thread that records nothing. -/
theorem StatsInvariant.setThread (invariant : state.StatsInvariant)
    (found : state.threads[thread]? = some old) (same : begun new = begun old)
    (accounted : ∀ running, new = some running → Accounted running.handled) :
    (state.setThread thread new).StatsInvariant := by
  constructor
  · exact invariant.returned
  · exact accounted_setThread invariant accounted
  · have sum : tally begun (state.threads.set thread new) + begun old =
        tally begun state.threads + begun new := tally_set new found
    have sent := invariant.sent
    rw [same] at sum
    rw [← Nat.add_right_cancel sum] at sent
    exact sent
  · exact invariant.counted
  · exact invariant.receiver
  · exact invariant.senders

theorem StatsInvariant.enter {handled : Handled} (invariant : state.StatsInvariant)
    (accounted : Accounted handled)
    (entered : state.enter thread handled = some next) : next.StatsInvariant := by
  unfold Observability.enter at entered
  split at entered
  case h_1 found =>
      cases entered
      refine invariant.setThread found ?_ ?_
      · rfl
      · intro running same
        cases same
        exact accounted
  case h_2 => cases entered

end

/-- A call of `emit_log` goes on. -/
theorem StatsInvariant.emit {thread : Nat} {running : Running} {emission : Emission}
    {left : Option Emission} (invariant : state.StatsInvariant)
    (found : state.threads[thread]? = some (some running)) :
    ((state.emit emission).1.setThread thread
      (some { running with emission := left })).StatsInvariant := by
  have same : SameStats state (state.emit emission).1 := sameStats_emit emission
  have still : (state.emit emission).1.threads[thread]? = some (some running) := by
    rw [same.threads]
    exact found
  refine (invariant.same same).setThread still ?_ ?_
  · rfl
  · intro other equal
    cases equal
    exact invariant.running running (List.mem_of_getElem? found)

/-- The call returns. -/
theorem StatsInvariant.returning {thread : Nat} {running : Running}
    (invariant : state.StatsInvariant)
    (found : state.threads[thread]? = some (some running))
    (last : running.handled.effects[running.position]? = none) :
    { state.setThread thread none with
      returned := state.returned ++ [running.handled] }.StatsInvariant := by
  have accounted := invariant.running running (List.mem_of_getElem? found)
  have others : ∀ other, some other ∈ (state.setThread thread none).threads →
      Accounted other.handled := by
    apply accounted_setThread invariant
    intro other same
    cases same
  constructor
  · intro handled member
    rcases List.mem_append.mp member with before | here
    · exact invariant.returned handled before
    · rw [List.mem_singleton.mp here]
      exact accounted
  · exact others
  · have sum : tally begun (state.threads.set thread none) + begun (some running) =
        tally begun state.threads + 0 := tally_set none found
    have ended : begun (some running) = running.handled.stats.length := by
      rw [begun, Running.begun_returning last]
    have sent : state.stats.accepted.length + state.refusedStats.length =
        tally (·.stats.length) (state.returned ++ [running.handled]) +
          tally begun (state.threads.set thread none) := by
      rw [tally_concat, invariant.sent, ← ended]
      omega
    exact sent
  · exact invariant.counted
  · exact invariant.receiver
  · exact invariant.senders

/-- The call records its statistics. -/
theorem StatsInvariant.recording {thread : Nat} {running : Running} {stats : RequestStats}
    (invariant : state.StatsInvariant)
    (found : state.threads[thread]? = some (some running))
    (next : running.handled.effects[running.position]? = some (.recordMetrics stats)) :
    ((state.recordMetrics stats).setThread thread
      (some { running with position := running.position + 1 })).StatsInvariant := by
  have records : Records state (state.recordMetrics stats) :=
    records_recordMetrics stats invariant.receiver
  have accounted := invariant.running running (List.mem_of_getElem? found)
  constructor
  · intro handled member
    change handled ∈ (state.recordMetrics stats).returned at member
    rw [records.returned] at member
    exact invariant.returned handled member
  · intro other member
    change _ ∈ (state.recordMetrics stats).threads.set thread _ at member
    rw [records.threads] at member
    rcases List.mem_or_eq_of_mem_set member with before | here
    · exact invariant.running other before
    · cases here
      exact accounted
  · have more : begun (some { running with position := running.position + 1 }) =
        begun (some running) + 1 := by
      rw [begun_some, Running.begun_next next, List.length_append]
      rfl
    have sum : tally begun (state.threads.set thread
          (some { running with position := running.position + 1 })) +
          begun (some running) =
        tally begun state.threads +
          begun (some { running with position := running.position + 1 }) :=
      tally_set _ found
    have sent : (state.recordMetrics stats).stats.accepted.length +
          (state.recordMetrics stats).refusedStats.length =
        tally (·.stats.length) (state.recordMetrics stats).returned +
          tally begun ((state.recordMetrics stats).threads.set thread
            (some { running with position := running.position + 1 })) := by
      rw [records.sent, records.returned, records.threads, invariant.sent]
      omega
    exact sent
  · have counted : (state.recordMetrics stats).metrics.totalRequests +
          Fin.ofNat u64Limit (state.recordMetrics stats).held =
        Fin.ofNat u64Limit (state.recordMetrics stats).stats.received.length := by
      unfold held
      rw [records.metrics, records.aggregator, records.received]
      exact invariant.counted
    exact counted
  · have receiver := records.receiver
    rw [invariant.receiver] at receiver
    exact receiver
  · have senders := invariant.senders
    rw [← records.senders] at senders
    exact senders

/-- Any other effect of a call. -/
theorem StatsInvariant.unrecorded {thread : Nat} {running : Running} {effect : Effect}
    {emission : Option Emission} (invariant : state.StatsInvariant)
    (found : state.threads[thread]? = some (some running))
    (next : running.handled.effects[running.position]? = some effect)
    (other : effect.stats? = none) :
    (state.setThread thread
      (some { running with position := running.position + 1, emission })).StatsInvariant := by
  refine invariant.setThread found ?_ ?_
  · rw [begun_some, Running.begun_next next, other]
    simp
  · intro other equal
    cases equal
    exact invariant.running running (List.mem_of_getElem? found)

theorem StatsInvariant.advance {thread : Nat} {running : Running}
    (invariant : state.StatsInvariant)
    (found : state.threads[thread]? = some (some running)) :
    (state.advance thread running).StatsInvariant := by
  unfold Observability.advance
  dsimp only
  split
  case h_1 last => exact invariant.returning found last
  case h_2 record next => exact invariant.unrecorded found next rfl
  case h_3 stats next => exact invariant.recording found next
  case h_4 effect notLog notStats next =>
      apply invariant.unrecorded found next
      cases effect with
      | recordMetrics stats => exact absurd rfl (notStats stats)
      | emitLog record => rfl
      | write answer got => rfl
      | shutdownWrite => rfl
      | proxy attempts => rfl

theorem StatsInvariant.work {thread : Nat} (invariant : state.StatsInvariant)
    (worked : state.work thread = some next) : next.StatsInvariant := by
  unfold Observability.work at worked
  split at worked
  case h_1 running found =>
      split at worked
      case h_1 emission _ =>
          cases worked
          exact invariant.emit found
      case h_2 =>
          cases worked
          exact invariant.advance found
  case h_2 => cases worked

/-- The aggregator sends a record while it holds no statistics. -/
theorem StatsInvariant.sends {emitter : Emitter} {record : LogRecord}
    {aggregator : Aggregating} (invariant : state.StatsInvariant) (before : state.held = 0)
    (after : { state.send emitter record with aggregator }.held = 0) :
    { state.send emitter record with aggregator }.StatsInvariant := by
  have same : SameStats state (state.send emitter record) := sameStats_send emitter record
  have sent := invariant.same same
  refine ⟨sent.returned, sent.running, sent.sent, ?_, sent.receiver, sent.senders⟩
  rw [after, ← before]
  dsimp only
  rw [same.metrics, same.stats]
  exact invariant.counted

theorem StatsInvariant.aggregate {snapshotRecord : Metrics → LogRecord} {elapsed : Bool}
    (invariant : state.StatsInvariant)
    (aggregated : state.aggregate snapshotRecord elapsed = some next) :
    next.StatsInvariant := by
  have counted := invariant.counted
  unfold Observability.aggregate at aggregated
  unfold held at counted
  split at aggregated
  case h_1 receiving =>
      rw [receiving] at counted
      split at aggregated
      case h_1 stats channel answer =>
          have received := Channel.received_of_recv answer
          cases aggregated
          refine ⟨invariant.returned, invariant.running, ?_, ?_, ?_, ?_⟩
          · dsimp only
            rw [received.sameAccepted]
            exact invariant.sent
          · dsimp only [held]
            rw [received.received, List.length_append, List.length_singleton,
              Metrics.ofNat_add, ← counted, Metrics.add_ofNat_zero]
          · rw [received.sameReceiver]
            exact invariant.receiver
          · rw [received.sameSenders]
            exact invariant.senders
      case h_2 gone =>
          have none := (Channel.recv_eq_disconnected_iff.mp gone).2
          have some := invariant.senders
          omega
      case h_3 => cases aggregated
  case h_2 stats received =>
      rw [received] at counted
      cases aggregated
      refine ⟨invariant.returned, invariant.running, invariant.sent, ?_, invariant.receiver,
        invariant.senders⟩
      dsimp only [held]
      rw [Metrics.totalRequests_recordRequest, Metrics.add_ofNat_zero]
      exact counted
  case h_3 stats due reporting =>
      cases aggregated
      apply invariant.sends
      · simp [held, reporting]
      · cases due <;> rfl
  case h_4 snapshotting =>
      cases aggregated
      apply invariant.sends
      · simp [held, snapshotting]
      · rfl
  case h_5 => cases aggregated

section

variable {σ τ : Type} [Read σ] [Read τ] {snapshotRecord : Metrics → LogRecord}
  {context : WorkerContext}

theorem StatsInvariant.step {activity : Activity σ τ} (invariant : state.StatsInvariant)
    (taken : state.step snapshotRecord context activity = some next) :
    next.StatsInvariant := by
  cases activity with
  | call thread client around req =>
      exact invariant.enter accounted_handleConnection taken
  | acceptEvent thread record => exact invariant.enter (accounted_event record) taken
  | rejectPoolFull thread =>
      have rejected : { state with
          metrics := state.metrics.recordPoolRejected }.StatsInvariant :=
        ⟨invariant.returned, invariant.running, invariant.sent, invariant.counted,
          invariant.receiver, invariant.senders⟩
      exact rejected.enter (accounted_event poolSaturated) taken
  | work thread => exact invariant.work taken
  | aggregate elapsed => exact invariant.aggregate taken
  | write => exact invariant.same (sameStats_write taken)
  | sink record =>
      cases taken
      exact invariant.same (sameStats_send _ _)

theorem statsInvariant_start {config : PoolConfig} {valid : config.validate = .ok ()}
    {listen : SocketAddr} {backends : List SocketAddr} {threads : Nat} :
    (start config valid listen backends threads).StatsInvariant := by
  apply StatsInvariant.same _ (sameStats_send _ _)
  refine ⟨nofun, ?_, ?_, rfl, rfl, Nat.zero_lt_succ 1⟩
  · intro running member
    cases List.eq_of_mem_replicate member
  · have none : tally begun (List.replicate threads (none : Option Running)) = 0 := by
      apply tally_eq_zero
      intro thread member
      rw [List.eq_of_mem_replicate member]
      rfl
    change _ = _ + tally begun (List.replicate threads Option.none)
    rw [none]
    rfl

theorem statsInvariant_run {start : Observability} {activities : List (Activity σ τ)}
    (invariant : start.StatsInvariant)
    (run : (machine snapshotRecord context).run start activities = some state) :
    state.StatsInvariant := by
  have preserves : (machine snapshotRecord context : Machine Observability
      (Activity σ τ)).Preserves StatsInvariant := by
    intro before activity after held taken
    exact held.step taken
  exact preserves.run invariant run

end

theorem recorded_of_accounted {calls : List Handled}
    (accounted : ∀ handled ∈ calls, Accounted handled) :
    tally (·.stats.length) calls + calls.countP (·.undelivered) =
      calls.countP (·.reachedProxy) := by
  induction calls with
  | nil => rfl
  | cons handled calls ih =>
      have rest := ih fun other member => accounted other (List.mem_cons_of_mem _ member)
      have here := (accounted handled List.mem_cons_self).recorded
      simp only [tally, List.map_cons, List.sum_cons, List.countP_cons] at rest ⊢
      cases undelivered : handled.undelivered <;>
        cases reached : handled.reachedProxy <;>
        simp only [undelivered, reached, Bool.toNat_true, Bool.toNat_false, if_true,
          Bool.false_eq_true, if_false] at here ⊢ <;>
        omega

/-- A call that does not reach `proxy_with_retries` records nothing. -/
theorem begun_eq_zero {running : Running} (accounted : Accounted running.handled)
    (unreached : running.handled.reachedProxy = false) : begun (some running) = 0 := by
  have none : running.handled.stats.length = 0 := by
    have recorded := accounted.recorded
    rw [unreached] at recorded
    simp at recorded
    simp [recorded.1]
  have bound : running.begun.length ≤ running.handled.stats.length := by
    apply List.Sublist.length_le
    exact (List.take_sublist _ _).filterMap _
  rw [begun_some]
  omega

end

/-- Once the metrics channel is empty and no request is being proxied, the
requests in the metrics, the one that the aggregator is about to add, those that
the channel refused and those that were not delivered are together the requests
that were proxied. -/
theorem totalRequests_account {σ τ : Type} [Read σ] [Read τ]
    (snapshotRecord : Metrics → LogRecord) (context : WorkerContext) (config : PoolConfig)
    (valid : config.validate = .ok ()) (listen : SocketAddr) (backends : List SocketAddr)
    (threads : Nat) (activities : List (Activity σ τ)) (state : Observability)
    (run : (machine snapshotRecord context).run (start config valid listen backends threads)
      activities = some state)
    (idle : state.Idle)
    (empty : state.stats.queue = []) :
    state.metrics.totalRequests +
        Fin.ofNat u64Limit (state.held + state.refusedStats.length +
          state.returned.countP (·.undelivered)) =
      Fin.ofNat u64Limit (state.returned.countP (·.reachedProxy)) := by
  have invariant := statsInvariant_run statsInvariant_start run
  have nothing : tally begun state.threads = 0 := by
    apply tally_eq_zero
    intro thread member
    cases thread with
    | none => rfl
    | some running =>
        exact begun_eq_zero (invariant.running running member) (idle running member)
  have sent := invariant.sent
  rw [Channel.received_of_empty empty, nothing, Nat.add_zero] at sent
  rw [← recorded_of_accounted invariant.returned, ← sent, Nat.add_assoc, Metrics.ofNat_add,
    ← add_assoc, invariant.counted, ← Metrics.ofNat_add, Nat.add_assoc]

theorem idle_of_free {state : Observability} (free : state.threads = [none]) : state.Idle := by
  intro running member
  rw [free] at member
  cases List.mem_singleton.mp member

theorem valid_default : ({} : PoolConfig).validate = .ok () := by decide

/-- `snapshot_record` without its report. -/
def snapshotTotal (metrics : Metrics) : LogRecord :=
  (LogRecord.new .info "metrics_snapshot" .metrics).field "total_requests"
    (decimal metrics.totalRequests.val)

/-- A worker with one call, and then the aggregator. -/
def oneCall (client : ClientSocket (List Item)) : List (Activity (List Item) (List Item)) :=
  .call 0 client failover ⟨1, 0⟩ :: List.replicate 15 (.work 0) ++
    [.aggregate false, .aggregate false, .aggregate false]

set_option maxRecDepth 4000 in
theorem totalRequests_account_oneCall :
    ∃ state, (machine snapshotTotal frontContext).run
        (start {} valid_default (.v4 localhost 8080) [] 1) (oneCall (sender payment)) =
          some state ∧
      state.metrics.totalRequests = 1 ∧
      state.metrics.totalRequests +
          Fin.ofNat u64Limit (state.held + state.refusedStats.length +
            state.returned.countP (·.undelivered)) =
        Fin.ofNat u64Limit (state.returned.countP (·.reachedProxy)) := by
  have shows : ((machine snapshotTotal frontContext).run
      (start {} valid_default (.v4 localhost 8080) [] 1) (oneCall (sender payment))).map
        (fun state => (state.metrics.totalRequests, state.threads, state.stats.queue)) =
      some (1, [none], []) := by
    decide +kernel
  obtain ⟨state, run, view⟩ := Option.map_eq_some_iff.mp shows
  simp only [Prod.mk.injEq] at view
  obtain ⟨total, free, empty⟩ := view
  exact ⟨state, run, total,
    totalRequests_account snapshotTotal frontContext {} valid_default (.v4 localhost 8080) []
      1 (oneCall (sender payment)) state run (idle_of_free free) empty⟩

/-- The write half cannot be shut. -/
def hangup : ClientSocket (List Item) :=
  { sender payment with shutdown := .error ⟨.other, "broken pipe"⟩ }

set_option maxRecDepth 4000 in
/-- A request that was proxied, and is not in the metrics. -/
theorem hangup_missing :
    ∃ state, (machine snapshotTotal frontContext).run
        (start {} valid_default (.v4 localhost 8080) [] 1)
        (.call 0 hangup failover ⟨1, 0⟩ :: List.replicate 14 (.work 0)) = some state ∧
      state.threads = [none] ∧ state.stats.queue = [] ∧ state.aggregator = .receiving ∧
      state.returned.countP (·.reachedProxy) = 1 ∧ state.metrics.totalRequests = 0 := by
  have shows : ((machine snapshotTotal frontContext).run
      (start {} valid_default (.v4 localhost 8080) [] 1)
      (.call 0 hangup failover ⟨1, 0⟩ :: List.replicate 14 (.work 0))).map
        (fun state => (state.threads, state.stats.queue, state.aggregator,
          state.returned.countP (·.reachedProxy), state.metrics.totalRequests)) =
      some ([none], [], .receiving, 1, 0) := by
    decide +kernel
  obtain ⟨state, run, view⟩ := Option.map_eq_some_iff.mp shows
  simp only [Prod.mk.injEq] at view
  exact ⟨state, run, view⟩

end Observability

end Mzani
