import Mzani.Balancer.Owner

/-!
# The shutdown report

`Balancer::shutdown` against a clock.  The pool keeps its senders of the metrics
channel and of the log channel until the grace period is over, so the threads
that read them exit after the deadline; the report is that of a clean shutdown
without any dropped connection all the same.
-/

namespace Mzani

open Support

variable {Stream Record Stats : Type}

/-- Summary returned after `Balancer::shutdown`. -/
structure ShutdownReport where
  connectionsDropped : U64
  joinedCleanly : Bool
  deriving DecidableEq

/-- What `shutdown_threads` returns after its joins: a panic aborts the process,
so no join is an error. -/
def shutdownThreads : MzaniResult Unit :=
  .ok ()

/-- What `Balancer::shutdown` returns, once it does. -/
def Balancer.result (balancer : Balancer Stream Record Stats) :
    Option (MzaniResult ShutdownReport) :=
  match balancer.run with
  | some { kind := .shutdown, point := .returned, .. } =>
      match shutdownThreads with
      | .ok () => some (.ok { connectionsDropped := 0, joinedCleanly := true })
      | .error _ => some (.error .shutdownTimeout)
  | _ => none

theorem Balancer.result_eq_some {balancer : Balancer Stream Record Stats}
    {result : MzaniResult ShutdownReport}
    (returned : balancer.result = some result) :
    result = .ok { connectionsDropped := 0, joinedCleanly := true } ∧
      ∃ run, balancer.run = some run ∧ run.point = .returned := by
  unfold Balancer.result at returned
  split at returned
  case h_1 workers metrics log running =>
      cases returned
      exact ⟨rfl, _, running, rfl⟩
  case h_2 => cases returned

/-- The threads of the pool. -/
def Balancer.Pooled (balancer : Balancer Stream Record Stats) : Thread → Prop
  | .worker worker => worker < balancer.pool.lanes.length
  | .metrics => True
  | .log => True
  | .health => False

/-- The balancer and the time, of which every step takes one unit; `deadline` is
that of the shutdown, once it has been computed. -/
structure Clocked (Stream Record Stats : Type) where
  balancer : Balancer Stream Record Stats
  now : Nat
  deadline : Option Nat

namespace Clocked

/-- The owner waits for the grace period to pass. -/
def inGrace (balancer : Balancer Stream Record Stats) : Bool :=
  match balancer.run with
  | some { point := .grace, .. } => true
  | _ => false

/-- `while Instant::now() < deadline` -/
def sleeping (clocked : Clocked Stream Record Stats) : Bool :=
  inGrace clocked.balancer && clocked.deadline.any fun deadline => clocked.now < deadline

/-- A step of the balancer; before the grace period
`let deadline = Instant::now() + grace`. -/
def reach (grace : Nat) (clocked : Clocked Stream Record Stats)
    (balancer : Balancer Stream Record Stats) : Clocked Stream Record Stats where
  balancer := balancer
  now := clocked.now + 1
  deadline :=
    match clocked.deadline with
    | some deadline => some deadline
    | none => if inGrace balancer = true then some (clocked.now + 1 + grace) else none

/-- A step of the balancer, or time passes; the owner takes none while it
sleeps. -/
def step [DecidableEq Stream] (grace : Nat) (clocked : Clocked Stream Record Stats) :
    Option (Action Stream Record Stats) → Option (Clocked Stream Record Stats)
  | none => some { clocked with now := clocked.now + 1 }
  | some (.own snapshot) =>
      if clocked.sleeping = true then none
      else (clocked.balancer.step (.own snapshot)).map (clocked.reach grace)
  | some action => (clocked.balancer.step action).map (clocked.reach grace)

def clock [DecidableEq Stream] (grace : Nat) :
    Machine (Clocked Stream Record Stats) (Option (Action Stream Record Stats)) where
  step := step grace

/-- The deadline, if there is one, has not passed. -/
def InTime (clocked : Clocked Stream Record Stats) : Prop :=
  ∀ deadline, clocked.deadline = some deadline → clocked.now ≤ deadline

section

variable [DecidableEq Stream] (grace : Nat) (start : Clocked Stream Record Stats)
  (labels : List (Option (Action Stream Record Stats)))

/-- The thread has exited by the deadline. -/
def ExitedInTime (thread : Thread) : Prop :=
  (clock grace).Sometime start labels fun clocked =>
    clocked.InTime ∧ clocked.balancer.hasExited thread = true

/-- A report gives the number of accepted connections that were never handled. -/
def CountsDropped (final : Clocked Stream Record Stats)
    (result : MzaniResult ShutdownReport) : Prop :=
  ∀ report, result = .ok report →
    report.connectionsDropped.val = final.balancer.pool.neverHandled.length

/-- What the documentation says of the result of a shutdown. -/
structure Truthful (final : Clocked Stream Record Stats)
    (result : MzaniResult ShutdownReport) : Prop where
  ok : ∀ report, result = .ok report → ∀ thread, final.balancer.Pooled thread →
    ExitedInTime grace start labels thread
  timeout : ∀ thread, final.balancer.Pooled thread →
    ¬ExitedInTime grace start labels thread → result = .error .shutdownTimeout
  dropped : CountsDropped final result

end

/-! ## The deadline has passed before the senders are dropped -/

/-- What holds in every state of a `Balancer::shutdown` with a clock. -/
structure Timely [DecidableEq Stream] (clocked : Clocked Stream Record Stats) : Prop where
  reached : Balancer.Reached clocked.balancer
  running : ∃ run, clocked.balancer.run = some run ∧ run.kind ≠ .drop ∧
    (run.point = .grace → clocked.deadline ≠ none) ∧
    (run.Past .grace → ∃ deadline, clocked.deadline = some deadline ∧
      deadline < clocked.now)

section

variable {clocked next : Clocked Stream Record Stats} {balancer : Balancer Stream Record Stats}
  {run : ShutdownRun} {grace : Nat}

theorem inGrace_iff (running : balancer.run = some run) :
    inGrace balancer = true ↔ run.point = .grace := by
  unfold inGrace
  rw [running]
  obtain ⟨kind, point, workers, metrics, log⟩ := run
  cases point <;> simp

theorem deadline_reach {deadline : Nat} (known : clocked.deadline = some deadline) :
    (clocked.reach grace balancer).deadline = some deadline := by
  simp [reach, known]

theorem deadline_reach_ne_none (grace : Nat) (inGrace : inGrace balancer = true) :
    (clocked.reach grace balancer).deadline ≠ none := by
  unfold reach
  cases clocked.deadline with
  | none => simp [inGrace]
  | some deadline => simp

theorem not_sleeping {deadline : Nat} (awake : clocked.sleeping = false)
    (inGrace : inGrace clocked.balancer = true)
    (known : clocked.deadline = some deadline) : deadline ≤ clocked.now := by
  simpa [sleeping, inGrace, known] using awake

variable [DecidableEq Stream]

/-- A step with a clock is one of the balancer, and no owner sleeps in it. -/
theorem step_cases {action : Action Stream Record Stats}
    (taken : clocked.step grace (some action) = some next) :
    ∃ balancer, clocked.balancer.step action = some balancer ∧
      next = clocked.reach grace balancer ∧
      ∀ snapshot, action = .own snapshot → clocked.sleeping = false := by
  cases action with
  | own snapshot =>
      simp only [step] at taken
      split at taken
      · cases taken
      case isFalse awake =>
          obtain ⟨balancer, stepped, rfl⟩ := Option.map_eq_some_iff.mp taken
          exact ⟨balancer, stepped, rfl, fun _ _ => Bool.eq_false_iff.mpr awake⟩
  | _ =>
      obtain ⟨balancer, stepped, rfl⟩ := Option.map_eq_some_iff.mp taken
      exact ⟨balancer, stepped, rfl, nofun⟩

theorem Timely.reach {action : Action Stream Record Stats} (timely : clocked.Timely)
    (stepped : clocked.balancer.step action = some balancer)
    (awake : ∀ snapshot, action = .own snapshot → clocked.sleeping = false) :
    (clocked.reach grace balancer).Timely := by
  obtain ⟨run, running, notDrop, inGrace, late⟩ := timely.running
  have reached := timely.reached.step stepped
  rcases Balancer.step_cases stepped with
    ⟨kind, begun⟩ | ⟨run₀, snapshot, run', own, running₀, moves⟩ | leaves
  · simp [Balancer.beginShutdown, running] at begun
  · rw [running, Option.some.injEq] at running₀
    subst running₀
    refine ⟨reached, run', moves.running, ?_, ?_, ?_⟩
    · cases moves.follows with
      | stays kind _ => exact kind ▸ notDrop
      | next kind _ => exact kind ▸ notDrop
      | skips kind _ _ _ => exact kind ▸ notDrop
      | again _ _ kind =>
          rw [kind]
          simp
    · intro atGrace
      apply deadline_reach_ne_none
      exact (inGrace_iff moves.running).mpr atGrace
    · intro past
      rcases moves.follows.past_cases (by decide) (.inl notDrop) past with before | ⟨now, _⟩
      · obtain ⟨deadline, known, passed⟩ := late before
        exact ⟨deadline, deadline_reach known, Nat.lt_succ_of_lt passed⟩
      · obtain ⟨deadline, known⟩ := Option.ne_none_iff_exists'.mp (inGrace now)
        refine ⟨deadline, deadline_reach known, Nat.lt_succ_of_le ?_⟩
        exact not_sleeping (awake snapshot own) ((inGrace_iff running).mpr now) known
  · refine ⟨reached, run, leaves.run.trans running, notDrop, ?_, ?_⟩
    · intro atGrace
      obtain ⟨deadline, known⟩ := Option.ne_none_iff_exists'.mp (inGrace atGrace)
      rw [deadline_reach known]
      simp
    · intro past
      obtain ⟨deadline, known, passed⟩ := late past
      exact ⟨deadline, deadline_reach known, Nat.lt_succ_of_lt passed⟩

theorem timely_preserved :
    (clock grace).Preserves (Timely : Clocked Stream Record Stats → Prop) := by
  intro clocked label next timely taken
  cases label with
  | none =>
      cases taken
      obtain ⟨run, running, notDrop, inGrace, late⟩ := timely.running
      refine ⟨timely.reached, run, running, notDrop, inGrace, fun past => ?_⟩
      obtain ⟨deadline, known, passed⟩ := late past
      exact ⟨deadline, known, Nat.lt_succ_of_lt passed⟩
  | some action =>
      obtain ⟨balancer, stepped, rfl, awake⟩ := step_cases taken
      exact timely.reach stepped awake

theorem timely_begin {start : Balancer Stream Record Stats} (now : Nat)
    (reached : Balancer.Reached balancer)
    (begun : balancer.beginShutdown .shutdown = some start) :
    (⟨start, now, none⟩ : Clocked Stream Record Stats).Timely := by
  have taken : balancer.step (.beginShutdown .shutdown) = some start := begun
  have startReached := reached.step taken
  unfold Balancer.beginShutdown at begun
  split at begun
  case isFalse => cases begun
  case isTrue =>
      cases begun
      refine ⟨startReached, _, rfl, nofun, nofun, ?_⟩
      rintro (again | before)
      · cases again
      · exact absurd before (Nat.not_lt_zero _)

/-- Until the deadline has passed neither thread has exited. -/
theorem Timely.not_exited {thread : Thread} (timely : clocked.Timely)
    (inTime : clocked.InTime) (isLate : thread = .metrics ∨ thread = .log) :
    clocked.balancer.hasExited thread = false := by
  have plumbed := timely.reached.invariant.1
  have owned := timely.reached.owned
  obtain ⟨run, running, _, _, late⟩ := timely.running
  have notPast : ¬run.Past .grace := by
    intro past
    obtain ⟨deadline, known, passed⟩ := late past
    exact absurd (inTime deadline known) (Nat.not_le.mpr passed)
  have only : ∀ {point : Point}, Point.grace.rank ≤ point.rank → ∀ other,
      clocked.balancer.run = some other → ¬other.Past point := by
    intro point later other isOther past
    rw [running, Option.some.injEq] at isOther
    subst isOther
    exact notPast (past.of_rank later)
  apply Bool.eq_false_iff.mpr
  intro exited
  rcases isLate with rfl | rfl
  · have closed := plumbed.metricsReader (Balancer.hasExited_metrics_iff.mp exited)
    have senders := plumbed.metricsSenders
    rw [closed.noSender, owned.metricsTx (only (by decide)), Bool.toNat_true] at senders
    omega
  · have closed := plumbed.logReader (Balancer.hasExited_log_iff.mp exited)
    have senders := plumbed.logSenders
    rw [closed.noSender, owned.logTx (only (by decide)), Bool.toNat_true] at senders
    omega

theorem timely_of_run {start : Balancer Stream Record Stats} {now : Nat}
    {labels : List (Option (Action Stream Record Stats))}
    (reached : Balancer.Reached balancer)
    (begun : balancer.beginShutdown .shutdown = some start)
    (taken : (clock grace).run ⟨start, now, none⟩ labels = some clocked) : clocked.Timely :=
  timely_preserved.run (timely_begin now reached begun) taken

theorem not_exitedInTime {start : Balancer Stream Record Stats} {now : Nat}
    {labels : List (Option (Action Stream Record Stats))} {thread : Thread}
    (reached : Balancer.Reached balancer)
    (begun : balancer.beginShutdown .shutdown = some start)
    (isLate : thread = .metrics ∨ thread = .log) :
    ¬ExitedInTime grace ⟨start, now, none⟩ labels thread := by
  rintro ⟨before, _, middle, _, taken, inTime, exited⟩
  have timely := timely_of_run reached begun taken
  rw [timely.not_exited inTime isLate] at exited
  cases exited

/-- When the shutdown returns all workers have gone. -/
theorem workers_gone {result : MzaniResult ShutdownReport}
    (reached : Balancer.Reached balancer) (returned : balancer.result = some result) :
    ∀ lane ∈ balancer.pool.lanes, lane.worker = .exited := by
  obtain ⟨_, run, running, isReturned⟩ := Balancer.result_eq_some returned
  have owned := reached.owned
  have past : ∀ {point : Point}, point.rank < 16 → run.Past point := by
    intro point before
    right
    rw [isReturned]
    exact before
  have noHandle := owned.taken run running (past (by decide))
  have noLocal := owned.joined run running (past (by decide))
  intro lane member
  obtain ⟨worker, bound, rfl⟩ := List.getElem_of_mem member
  rcases owned.held worker bound with handle | ⟨other, isOther, handle⟩ | ⟨lane, found, gone⟩
  · rw [noHandle] at handle
    cases handle
  · rw [running, Option.some.injEq] at isOther
    rw [← isOther, noLocal] at handle
    cases handle
  · rw [List.getElem?_eq_getElem bound, Option.some.injEq] at found
    rw [found]
    exact gone

/-- The report is right about the connections exactly when no worker has turned
one away. -/
theorem countsDropped_iff {result : MzaniResult ShutdownReport} (timely : clocked.Timely)
    (returned : clocked.balancer.result = some result) :
    CountsDropped clocked result ↔ clocked.balancer.pool.refused = [] := by
  have sound := timely.reached.poolSound
  obtain ⟨capacity, invariant⟩ := sound.invariant
  have gone := workers_gone timely.reached returned
  rw [← ThreadPool.neverHandled_eq_nil_iff invariant sound.traced gone]
  obtain ⟨rfl, _⟩ := Balancer.result_eq_some returned
  constructor
  · intro counts
    have none : 0 = clocked.balancer.pool.neverHandled.length := counts _ rfl
    exact List.length_eq_zero_iff.mp none.symm
  · intro none report isReport
    cases isReport
    rw [none]
    rfl

/-- No shutdown that returns is reported truthfully. -/
theorem shutdown_not_truthful {start : Balancer Stream Record Stats} {now : Nat}
    {labels : List (Option (Action Stream Record Stats))}
    {final : Clocked Stream Record Stats} {result : MzaniResult ShutdownReport}
    (reached : Balancer.Reached balancer)
    (begun : balancer.beginShutdown .shutdown = some start)
    (taken : (clock grace).run ⟨start, now, none⟩ labels = some final)
    (returned : final.balancer.result = some result) :
    ¬Truthful grace ⟨start, now, none⟩ labels final result ∧
      result = .ok { connectionsDropped := 0, joinedCleanly := true } ∧
      ¬ExitedInTime grace ⟨start, now, none⟩ labels .metrics ∧
      ¬ExitedInTime grace ⟨start, now, none⟩ labels .log ∧
      (CountsDropped final result ↔ final.balancer.pool.refused = []) := by
  have timely := timely_of_run reached begun taken
  have isOk := (Balancer.result_eq_some returned).1
  have metricsLate : ¬ExitedInTime grace ⟨start, now, none⟩ labels .metrics :=
    not_exitedInTime reached begun (.inl rfl)
  have logLate : ¬ExitedInTime grace ⟨start, now, none⟩ labels .log :=
    not_exitedInTime reached begun (.inr rfl)
  refine ⟨?_, isOk, metricsLate, logLate, countsDropped_iff timely returned⟩
  intro truthful
  exact metricsLate (truthful.ok _ isOk .metrics trivial)

end

/-- A shutdown with a grace period of one step; the stream that was queued is
received after the signal. -/
def oneGrace : List (Option (Action Nat Nat Nat)) :=
  [.own 0, .own 0, .work 0, .work 0, .work 0, .write, .write, .probe none, .own 0, .own 0,
    .own 0, .own 0, .work 0, .own 0, .own 0, .own 0, .own 0, .own 0, .own 0, .own 0, .own 0,
    .aggregate 0 false, .own 0, .own 0, .own 0, .write, .write, .write, .own 0].map some

/-- The queued stream is turned away and the report counts none. -/
theorem oneGrace_returns :
    ∃ (balancer start : Balancer Nat Nat Nat) (final : Clocked Nat Nat Nat),
      Balancer.Reached balancer ∧ balancer.beginShutdown .shutdown = some start ∧
        (clock 1).run ⟨start, 0, none⟩ oneGrace = some final ∧
        final.balancer.result =
          some (.ok { connectionsDropped := 0, joinedCleanly := true }) ∧
        final.balancer.pool.neverHandled = [1] := by
  obtain ⟨built, isBuilt⟩ : ∃ built : Balancer Nat Nat Nat,
    Balancer.build Balancer.smallConfig (.ok ()) 0 = .ok built := ⟨_, rfl⟩
  obtain ⟨serving, served, start, begins⟩ : ∃ serving,
      Balancer.machine.run built Balancer.oneQueued = some serving ∧
        ∃ start, serving.beginShutdown .shutdown = some start := by
    cases isBuilt
    exact ⟨_, rfl, _, rfl⟩
  have reached := (Balancer.Reached.build isBuilt).of_run served
  have shows : ((clock 1).run ⟨start, 0, none⟩ oneGrace).map
      (fun final => (final.balancer.result, final.balancer.pool.neverHandled)) =
        some (some (.ok { connectionsDropped := 0, joinedCleanly := true }), [1]) := by
    cases isBuilt
    cases served
    cases begins
    decide +kernel
  obtain ⟨final, taken, views⟩ := Option.map_eq_some_iff.mp shows
  rw [Prod.mk.injEq] at views
  exact ⟨serving, start, final, reached, begins, taken, views⟩

theorem shutdown_not_truthful_oneGrace :
    ∃ (start : Balancer Nat Nat Nat) (final : Clocked Nat Nat Nat)
      (result : MzaniResult ShutdownReport),
      (clock 1).run ⟨start, 0, none⟩ oneGrace = some final ∧
        final.balancer.result = some result ∧
        ¬Truthful 1 ⟨start, 0, none⟩ oneGrace final result ∧
        ¬ExitedInTime 1 ⟨start, 0, none⟩ oneGrace .metrics ∧
        (CountsDropped final result ↔ final.balancer.pool.refused = []) := by
  obtain ⟨balancer, start, final, reached, begun, taken, returned, _⟩ := oneGrace_returns
  obtain ⟨untrue, _, metricsLate, _, counts⟩ :=
    shutdown_not_truthful reached begun taken returned
  exact ⟨start, final, _, taken, returned, untrue, metricsLate, counts⟩

/-- A connection that was accepted and never handled is not in the report. -/
theorem queued_unreported :
    ∃ (balancer start : Balancer Nat Nat Nat) (final : Clocked Nat Nat Nat)
      (result : MzaniResult ShutdownReport),
      Balancer.Reached balancer ∧ balancer.beginShutdown .shutdown = some start ∧
        (clock 1).run ⟨start, 0, none⟩ oneGrace = some final ∧
        final.balancer.result = some result ∧
        final.balancer.pool.neverHandled = [1] ∧
        ¬Truthful 1 ⟨start, 0, none⟩ oneGrace final result := by
  obtain ⟨balancer, start, final, reached, begun, taken, returned, dropped⟩ :=
    oneGrace_returns
  refine ⟨balancer, start, final, _, reached, begun, taken, returned, dropped, ?_⟩
  intro truthful
  have counts := truthful.dropped _ rfl
  rw [dropped] at counts
  cases counts

end Clocked

end Mzani
