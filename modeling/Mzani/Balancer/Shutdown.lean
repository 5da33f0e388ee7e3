import Mzani.Balancer.Frame

/-!
# Shutdown

Every run of the shutdown sequence, from any reachable state in which no clone
of the context or of the log sender is held outside: when a thread is joined
its channel has no sender left, so the join ends; what was accepted has been
received by then; and a second run changes nothing.
-/

namespace Mzani

open Support

variable {Stream Record Stats : Type}

/-- The order of the statements. -/
def Point.rank : Point → Nat
  | .signal => 0
  | .stopHealth => 1
  | .joinHealth => 2
  | .stopAccepting => 3
  | .clearing => 4
  | .grace => 5
  | .stopThreads => 6
  | .clearingThreads => 7
  | .takeHandles => 8
  | .joinWorkers => 9
  | .detach => 10
  | .dropMetricsTx => 11
  | .joinMetrics => 12
  | .shutdownLog => 13
  | .dropLogTx => 14
  | .joinLog => 15
  | .returned => 16

theorem Point.eq_of_rank {first second : Point} (same : first.rank = second.rank) :
    first = second := by
  cases first <;> cases second <;> first | rfl | cases same

/-- The statement has been run, in this sequence or in an earlier one. -/
def ShutdownRun.Past (run : ShutdownRun) (point : Point) : Prop :=
  run.kind = .dropAgain ∨ point.rank < run.point.rank

theorem ShutdownRun.Past.of_rank {run : ShutdownRun} {earlier later : Point} (past : run.Past later)
    (order : earlier.rank ≤ later.rank) : run.Past earlier :=
  past.imp_right fun before => Nat.lt_of_le_of_lt order before

namespace Balancer

variable {balancer next : Balancer Stream Record Stats} {run : ShutdownRun}

/-- What the statement achieves for the rest of the sequence. -/
def Established (balancer : Balancer Stream Record Stats) (run : ShutdownRun) :
    Point → Prop
  | .signal => balancer.pool.shuttingDown = true
  | .stopHealth => balancer.healthStop = true
  | .joinHealth => balancer.healthHandle = false
  | .clearingThreads => balancer.pool.connectionTxs = []
  | .takeHandles => balancer.handles = []
  | .joinWorkers => run.workers = []
  | .detach => balancer.contextLogTx = false ∧ balancer.contextMetricsTx = false
  | .dropMetricsTx => balancer.poolMetricsTx = false
  | .joinMetrics => run.metrics = false
  | .dropLogTx => balancer.poolLogTx = false
  | .joinLog => run.log = false
  | _ => True

/-- Somebody has the handle of the thread. -/
def HoldsHandle (balancer : Balancer Stream Record Stats) (run : ShutdownRun) :
    Thread → Prop
  | .worker worker => .worker worker ∈ balancer.handles ∨ worker ∈ run.workers
  | .metrics => .metrics ∈ balancer.handles ∨ run.metrics = true
  | .log => .log ∈ balancer.handles ∨ run.log = true
  | .health => balancer.healthHandle = true

/-- The thread is one of the balancer's. -/
def Spawned (balancer : Balancer Stream Record Stats) : Thread → Prop
  | .worker worker => worker < balancer.pool.lanes.length
  | _ => True

/-- What holds in every state of a shutdown sequence. -/
structure InRun (balancer : Balancer Stream Record Stats) (run : ShutdownRun) : Prop where
  running : balancer.run = some run
  plumbed : balancer.Plumbed
  alone : balancer.Alone
  established : ∀ point, run.Past point → Established balancer run point
  untaken : ¬run.Past .takeHandles →
    run.workers = [] ∧ run.metrics = false ∧ run.log = false
  stopping : balancer.pool.stopping = true ↔
    run.point = .clearing ∨ run.point = .clearingThreads
  held : ∀ thread, balancer.Spawned thread → balancer.HoldsHandle run thread ∨
    balancer.hasExited thread = true
  spawned : ∀ thread, balancer.HoldsHandle run thread → balancer.Spawned thread
  joined : ∀ thread ∈ balancer.joined, balancer.hasExited thread = true

theorem Keeps.spawned_iff (keeps : Keeps balancer next) (thread : Thread) :
    next.Spawned thread ↔ balancer.Spawned thread := by
  cases thread with
  | worker worker => rw [Spawned, Spawned, keeps.pool.workers]
  | metrics => exact Iff.rfl
  | log => exact Iff.rfl
  | health => exact Iff.rfl

/-- What is established stays so. -/
theorem Keeps.established {point : Point} (keeps : Keeps balancer next)
    (holds : Established balancer run point) : Established next run point := by
  cases point with
  | signal => exact keeps.pool.shuttingDown holds
  | stopHealth => exact keeps.healthStop holds
  | joinHealth => exact keeps.healthHandle holds
  | clearingThreads => exact keeps.pool.connectionTxs holds
  | takeHandles => exact keeps.handles holds
  | joinWorkers => exact holds
  | detach => exact ⟨keeps.contextLogTx holds.1, keeps.contextMetricsTx holds.2⟩
  | dropMetricsTx => exact keeps.poolMetricsTx holds
  | joinMetrics => exact holds
  | dropLogTx => exact keeps.poolLogTx holds
  | joinLog => exact holds
  | stopAccepting => trivial
  | clearing => trivial
  | grace => trivial
  | stopThreads => trivial
  | shutdownLog => trivial
  | returned => trivial

theorem SameHold.holdsHandle_iff (same : SameHold balancer next) (thread : Thread) :
    next.HoldsHandle run thread ↔ balancer.HoldsHandle run thread := by
  cases thread with
  | worker worker => rw [HoldsHandle, HoldsHandle, same.handles]
  | metrics => rw [HoldsHandle, HoldsHandle, same.handles]
  | log => rw [HoldsHandle, HoldsHandle, same.handles]
  | health => rw [HoldsHandle, HoldsHandle, same.healthHandle]

/-- A step that touches no handle: the owner goes to another statement, or
another thread takes a step. -/
theorem InRun.goto {point : Point} (inRun : InRun balancer run) (plumbed : next.Plumbed)
    (same : SameHold balancer next) (running : next.run = some { run with point })
    (forward : run.point.rank ≤ point.rank)
    (stopping : next.pool.stopping = true ↔ point = .clearing ∨ point = .clearingThreads)
    (achieved : ∀ other, run.point.rank ≤ other.rank → other.rank < point.rank →
      Established next run other) : InRun next { run with point } where
  running := running
  plumbed := plumbed
  alone :=
    { contextHandles := same.contextHandles.trans inRun.alone.contextHandles
      logHandles := same.logHandles.trans inRun.alone.logHandles
      calls := same.calls.trans inRun.alone.calls }
  established := fun other past => by
    have sameLocals : Established next run other → Established next { run with point } other :=
      by cases other <;> exact id
    refine sameLocals ?_
    by_cases before : run.Past other
    · exact same.keeps.established (inRun.established other before)
    · rcases past with again | earlier
      · exact absurd (.inl again) before
      · exact achieved other (Nat.le_of_not_lt fun less => before (.inr less)) earlier
  untaken := fun notYet => inRun.untaken fun past =>
    notYet (past.imp_right fun earlier => Nat.lt_of_lt_of_le earlier forward)
  stopping := stopping
  held := fun thread spawned => by
    have holds := inRun.held thread ((same.keeps.spawned_iff thread).mp spawned)
    refine holds.imp (fun holds => ?_) (same.keeps.exited thread)
    have holds' := (same.holdsHandle_iff thread).mpr holds
    cases thread <;> exact holds'
  spawned := fun thread holds => by
    rw [same.keeps.spawned_iff]
    refine inRun.spawned thread ((same.holdsHandle_iff thread).mp ?_)
    cases thread <;> exact holds
  joined := fun thread member => by
    rw [same.joined] at member
    exact same.keeps.exited thread (inRun.joined thread member)

/-- A step of another thread. -/
theorem InRun.undisturbed (inRun : InRun balancer run) (plumbed : next.Plumbed)
    (undisturbed : Undisturbed balancer next) : InRun next run :=
  inRun.goto plumbed undisturbed.toSameHold (undisturbed.run.trans inRun.running) le_rfl
    (by rw [undisturbed.stopping, inRun.stopping]) fun _ notBefore before => by omega

/-! ## Threads that have gone -/

theorem InRun.workers_gone (inRun : InRun balancer run) (past : run.Past .joinWorkers)
    {worker : Nat} (spawned : worker < balancer.pool.lanes.length) :
    balancer.pool.Gone worker := by
  have noHandle : balancer.handles = [] :=
    inRun.established .takeHandles (past.of_rank (by decide))
  have noLocal : run.workers = [] := inRun.established .joinWorkers past
  rcases inRun.held (.worker worker) spawned with holds | exited
  · rw [HoldsHandle, noHandle, noLocal] at holds
    rcases holds with holds | holds <;> cases holds
  · exact hasExited_worker_iff.mp exited

theorem InRun.metrics_exited (inRun : InRun balancer run) (past : run.Past .joinMetrics) :
    balancer.metricsThread = .exited := by
  have noHandle : balancer.handles = [] :=
    inRun.established .takeHandles (past.of_rank (by decide))
  have noLocal : run.metrics = false := inRun.established .joinMetrics past
  rcases inRun.held .metrics trivial with holds | exited
  · rw [HoldsHandle, noHandle, noLocal] at holds
    rcases holds with holds | holds <;> cases holds
  · exact hasExited_metrics_iff.mp exited

theorem InRun.log_exited (inRun : InRun balancer run) (past : run.Past .joinLog) :
    balancer.logThread = .exited := by
  have noHandle : balancer.handles = [] :=
    inRun.established .takeHandles (past.of_rank (by decide))
  have noLocal : run.log = false := inRun.established .joinLog past
  rcases inRun.held .log trivial with holds | exited
  · rw [HoldsHandle, noHandle, noLocal] at holds
    rcases holds with holds | holds <;> cases holds
  · exact hasExited_log_iff.mp exited

theorem InRun.health_exited (inRun : InRun balancer run) (past : run.Past .joinHealth) :
    balancer.healthThread = .exited := by
  have noHandle : balancer.healthHandle = false := inRun.established .joinHealth past
  rcases inRun.held .health trivial with holds | exited
  · rw [HoldsHandle, noHandle] at holds
    cases holds
  · exact hasExited_health_iff.mp exited

theorem liveWorkers_of_gone {pool : ThreadPool Stream}
    (gone : ∀ worker < pool.lanes.length, pool.Gone worker) : pool.liveWorkers = 0 := by
  rw [ThreadPool.liveWorkers, List.sum_eq_zero_iff_forall_eq_nat]
  intro count member
  obtain ⟨lane, laneMember, rfl⟩ := List.mem_map.mp member
  obtain ⟨worker, bound, rfl⟩ := List.getElem_of_mem laneMember
  obtain ⟨lane', found, exited⟩ := gone worker bound
  rw [List.getElem?_eq_getElem bound, Option.some.injEq] at found
  rw [found, exited]
  rfl

/-- Once the workers have gone, the pool has the only reference to the
context. -/
theorem InRun.contextRefs (inRun : InRun balancer run) (past : run.Past .joinWorkers) :
    balancer.contextRefs = 1 := by
  rw [inRun.plumbed.contextRefs, inRun.alone.contextHandles,
    liveWorkers_of_gone fun worker => inRun.workers_gone past]

/-! ## Steps of the owner -/

/-- The owner goes to the next statement and touches no handle. -/
theorem InRun.goNext {point : Point} (inRun : InRun balancer run) (plumbed : next.Plumbed)
    (same : SameHold balancer next) (running : next.run = some { run with point })
    (successor : point.rank = run.point.rank + 1)
    (stopping : next.pool.stopping = true ↔ point = .clearing ∨ point = .clearingThreads)
    (achieved : Established next run run.point) : InRun next { run with point } := by
  refine inRun.goto plumbed same running (by omega) stopping fun other notBefore before => ?_
  have same : other = run.point := Point.eq_of_rank (by omega)
  rw [same]
  exact achieved

/-- The owner joins a thread. -/
theorem InRun.join {thread : Thread} {run' : ShutdownRun} {healthHandle : Bool}
    (inRun : InRun balancer run) (exited : balancer.hasExited thread = true)
    (plumbed : { balancer with
      run := some run', joined := balancer.joined ++ [thread], healthHandle }.Plumbed)
    (kind : run'.kind = run.kind)
    (notStopping : (run.point = .clearing ∨ run.point = .clearingThreads ↔
      run'.point = .clearing ∨ run'.point = .clearingThreads))
    (untaken : ¬run'.Past .takeHandles →
      run'.workers = [] ∧ run'.metrics = false ∧ run'.log = false)
    (kept : ∀ point, Established balancer run point →
      Established { balancer with run := some run', healthHandle } run' point)
    (achieved : ∀ point, run.point.rank ≤ point.rank → point.rank < run'.point.rank →
      Established { balancer with run := some run', healthHandle } run' point)
    (others : ∀ other, balancer.HoldsHandle run other →
      other = thread ∨ { balancer with run := some run', healthHandle }.HoldsHandle run' other)
    (fewer : ∀ other, { balancer with run := some run', healthHandle }.HoldsHandle run' other →
      balancer.HoldsHandle run other) :
    InRun { balancer with
      run := some run', joined := balancer.joined ++ [thread], healthHandle } run' where
  running := rfl
  plumbed := plumbed
  alone := ⟨inRun.alone.contextHandles, inRun.alone.logHandles, inRun.alone.calls⟩
  established := fun point past => by
    have established : Established { balancer with run := some run', healthHandle } run'
        point := by
      by_cases before : run.Past point
      · exact kept point (inRun.established point before)
      · rcases past with again | earlier
        · exact absurd (.inl (kind.symm.trans again)) before
        · exact achieved point (Nat.le_of_not_lt fun less => before (.inr less)) earlier
    cases point <;> exact established
  untaken := untaken
  stopping := inRun.stopping.trans notStopping
  held := fun other spawned => by
    have spawned' : balancer.Spawned other := by cases other <;> exact spawned
    rcases inRun.held other spawned' with holds | gone
    · rcases others other holds with rfl | holds
      · exact .inr (by cases other <;> exact exited)
      · exact .inl (by cases other <;> exact holds)
    · exact .inr (by cases other <;> exact gone)
  spawned := fun other holds => by
    have holds' := fewer other (by cases other <;> exact holds)
    have spawned := inRun.spawned other holds'
    cases other <;> exact spawned
  joined := fun other member => by
    have gone : balancer.hasExited other = true := by
      rcases List.mem_append.mp member with before | now
      · exact inRun.joined other before
      · rw [List.mem_singleton.mp now]
        exact exited
    cases other <;> exact gone

theorem join_eq_some_iff {thread : Thread} {run' : ShutdownRun} :
    balancer.join thread run' = some next ↔ balancer.hasExited thread = true ∧
      next = { balancer with run := some run', joined := balancer.joined ++ [thread] } := by
  rw [Balancer.join, Option.ite_none_right_eq_some, Option.some.injEq, eq_comm (b := next)]

theorem sameHold_setPool {pool : ThreadPool Stream} {run' : Option ShutdownRun}
    (steps : ThreadPool.Steps balancer.pool pool) (sameCalls : pool.calls = balancer.pool.calls) :
    SameHold balancer { balancer with pool, run := run' } where
  keeps := { keeps_setPool (ThreadPool.keeps_of_steps steps) with
    exited := (keeps_setPool (ThreadPool.keeps_of_steps steps)).exited }
  joined := rfl
  handles := rfl
  healthHandle := rfl
  calls := sameCalls
  contextHandles := rfl
  logHandles := rfl

theorem InRun.notStopping (inRun : InRun balancer run)
    (elsewhere : ¬(run.point = .clearing ∨ run.point = .clearingThreads)) :
    balancer.pool.stopping = false :=
  Bool.eq_false_iff.mpr fun stopping => elsewhere (inRun.stopping.mp stopping)

/-- A statement that does nothing to the pool. -/
theorem InRun.stopping_iff (inRun : InRun balancer run) {point : Point}
    (before : ¬(run.point = .clearing ∨ run.point = .clearingThreads))
    (after : ¬(point = .clearing ∨ point = .clearingThreads)) :
    balancer.pool.stopping = true ↔ point = .clearing ∨ point = .clearingThreads :=
  inRun.stopping.trans (iff_of_false before after)

/-- `stop_accepting` begins. -/
theorem InRun.beginStop {point : Point} {pool : ThreadPool Stream}
    (inRun : InRun balancer run)
    (plumbed : { balancer with pool, run := some { run with point } }.Plumbed)
    (begun : balancer.pool.beginStop = some pool) (successor : point.rank = run.point.rank + 1)
    (clears : point = .clearing ∨ point = .clearingThreads)
    (trivially : ∀ other : Balancer Stream Record Stats, Established other run run.point) :
    InRun { balancer with pool, run := some { run with point } } { run with point } := by
  obtain ⟨⟨_, free⟩, rfl⟩ := ThreadPool.beginStop_eq_some_iff.mp begun
  exact inRun.goNext plumbed (sameHold_setPool (.beginStop free) rfl) rfl successor
    (iff_of_true rfl clears) (trivially _)

/-- `stop_accepting` drops a sender, or returns when there is none. -/
theorem InRun.clearSenders {point : Point} (inRun : InRun balancer run)
    (plumbed : next.Plumbed) (taken : balancer.clearSenders run point = some next)
    (successor : point.rank = run.point.rank + 1)
    (done : ¬(point = .clearing ∨ point = .clearingThreads))
    (achieved : ∀ other : Balancer Stream Record Stats, other.pool.connectionTxs = [] →
      Established other run run.point) :
    ∃ run', InRun next run' := by
  unfold Balancer.clearSenders at taken
  split at taken
  case h_1 cleared =>
      obtain ⟨pool, ended, rfl⟩ := Option.map_eq_some_iff.mp taken
      obtain ⟨_, rfl⟩ := ThreadPool.endStop_eq_some_iff.mp ended
      exact ⟨_, inRun.goNext plumbed (sameHold_setPool (.endStop cleared) rfl) rfl successor
        (iff_of_false nofun done) (achieved _ cleared)⟩
  case h_2 =>
      obtain ⟨pool, dropped, rfl⟩ := Option.map_eq_some_iff.mp taken
      obtain ⟨worker, lane, rest, drops⟩ := ThreadPool.dropsSender_of_dropSender dropped
      have sameCalls : pool.calls = balancer.pool.calls := by rw [drops.result]; rfl
      have sameStopping : pool.stopping = balancer.pool.stopping := by rw [drops.result]; rfl
      exact ⟨run, inRun.undisturbed plumbed
        ⟨sameHold_setPool (.dropSender drops) sameCalls, rfl, sameStopping⟩⟩

/-- `shutdown_threads` takes the handles. -/
theorem InRun.takeHandles (inRun : InRun balancer run) (atPoint : run.point = .takeHandles)
    {run' : ShutdownRun}
    (taken : run' =
      { run with
        point := .joinWorkers
        workers := balancer.handles.filterMap fun
          | .worker worker => some worker
          | _ => none
        metrics := decide (.metrics ∈ balancer.handles)
        log := decide (.log ∈ balancer.handles) })
    (plumbed : { balancer with handles := [], run := some run' }.Plumbed) :
    InRun { balancer with handles := [], run := some run' } run' := by
  -- nothing is left of an earlier sequence
  have locals : run.workers = [] ∧ run.metrics = false ∧ run.log = false := by
    by_cases past : run.Past .takeHandles
    · rcases past with again | before
      · exact ⟨inRun.established .joinWorkers (.inl again),
          inRun.established .joinMetrics (.inl again), inRun.established .joinLog (.inl again)⟩
      · rw [atPoint] at before
        exact absurd before (Nat.lt_irrefl _)
    · exact inRun.untaken past
  have members : ∀ worker, worker ∈ run'.workers ↔ .worker worker ∈ balancer.handles := by
    intro worker
    rw [taken, List.mem_filterMap]
    constructor
    · rintro ⟨thread, member, found⟩
      cases thread <;> cases found
      exact member
    · exact fun member => ⟨_, member, rfl⟩
  have holds : ∀ thread, { balancer with handles := [], run := some run' }.HoldsHandle run'
      thread ↔ balancer.HoldsHandle run thread := by
    intro thread
    cases thread with
    | worker worker => simp [HoldsHandle, members, locals.1]
    | metrics => simp [HoldsHandle, taken, locals.2.1]
    | log => simp [HoldsHandle, taken, locals.2.2]
    | health => exact Iff.rfl
  refine
    { running := rfl
      plumbed := plumbed
      alone := ⟨inRun.alone.contextHandles, inRun.alone.logHandles, inRun.alone.calls⟩
      established := fun point past => ?_
      untaken := fun notYet => absurd (.inr (by rw [taken]; exact Nat.lt_succ_self 8)) notYet
      stopping := ?_
      held := fun thread spawned => ?_
      spawned := fun thread held => inRun.spawned thread ((holds thread).mp held)
      joined := inRun.joined }
  · by_cases again : run.kind = .dropAgain
    · have before := inRun.established point (.inl again)
      have noHandle : balancer.handles = [] := inRun.established .takeHandles (.inl again)
      cases point with
      | takeHandles => rfl
      | joinWorkers => rw [Established, taken, noHandle]; rfl
      | joinMetrics => rw [Established, taken, noHandle]; rfl
      | joinLog => rw [Established, taken, noHandle]; rfl
      | signal => exact before
      | stopHealth => exact before
      | joinHealth => exact before
      | clearingThreads => exact before
      | detach => exact before
      | dropMetricsTx => exact before
      | dropLogTx => exact before
      | stopAccepting => trivial
      | clearing => trivial
      | grace => trivial
      | stopThreads => trivial
      | shutdownLog => trivial
      | returned => trivial
    · have earlier : point.rank < 9 := by
        rcases past with again' | before
        · rw [taken] at again'
          exact absurd again' again
        · rw [taken] at before
          exact before
      have passed : point = .takeHandles ∨ Established balancer run point := by
        by_cases now : point = .takeHandles
        · exact .inl now
        · refine .inr (inRun.established point (.inr ?_))
          rw [atPoint]
          have different : point.rank ≠ 8 := fun same =>
            now (Point.eq_of_rank (show point.rank = Point.takeHandles.rank from same))
          change point.rank < 8
          omega
      rcases passed with rfl | before
      · rfl
      · cases point <;> first | exact before | rfl | exact absurd earlier (by decide)
  · exact inRun.stopping_iff (by rw [atPoint]; decide) (by rw [taken]; exact nofun)
  · rcases inRun.held thread spawned with held | exited
    · exact .inl ((holds thread).mpr held)
    · exact .inr exited

theorem sameHold_setRun {run' : Option ShutdownRun} :
    SameHold balancer { balancer with run := run' } :=
  ⟨{ Keeps.refl balancer with }, rfl, rfl, rfl, rfl, rfl, rfl⟩

/-- What is behind a sequence between the join of the monitor and the handles. -/
theorem established_of_joined {after : Balancer Stream Record Stats} {run' : ShutdownRun}
    {other : Point} (joined : after.healthHandle = false)
    (late : Point.joinHealth.rank ≤ other.rank) (early : other.rank < 6) :
    Established after run' other := by
  cases other with
  | joinHealth => exact joined
  | _ =>
      first
      | exact absurd late (by decide)
      | exact absurd early (by decide)
      | trivial

theorem InRun.joinHealth {point : Point} (inRun : InRun balancer run)
    (atPoint : run.point = .joinHealth) (plumbed : next.Plumbed)
    (target : point = .stopAccepting ∨ point = .stopThreads)
    (taken : (if balancer.healthHandle = true then
        (balancer.join .health { run with point }).map fun joined =>
          { joined with healthHandle := false }
      else some { balancer with run := some { run with point } }) = some next) :
    ∃ run', InRun next run' := by
  have forward : run.point.rank ≤ point.rank := by
    rw [atPoint]
    rcases target with rfl | rfl <;> decide
  have elsewhere : ¬(point = .clearing ∨ point = .clearingThreads) := by
    rcases target with rfl | rfl <;> decide
  have notHere : ¬(run.point = .clearing ∨ run.point = .clearingThreads) := by
    rw [atPoint]
    decide
  have bound : point.rank ≤ 6 := by
    rcases target with rfl | rfl <;> decide
  split at taken
  case isTrue hasHandle =>
      obtain ⟨joined, hasJoined, rfl⟩ := Option.map_eq_some_iff.mp taken
      obtain ⟨exited, rfl⟩ := join_eq_some_iff.mp hasJoined
      refine ⟨_, inRun.join exited plumbed rfl (iff_of_false notHere elsewhere) ?_ ?_ ?_ ?_ ?_⟩
      · intro _
        refine inRun.untaken fun past => ?_
        rcases past with again | before
        · -- an earlier sequence has joined the monitor
          have none : balancer.healthHandle = false := inRun.established .joinHealth (.inl again)
          rw [hasHandle] at none
          cases none
        · rw [atPoint] at before
          exact absurd before (by decide)
      · intro other established
        cases other <;> first | exact established | rfl
      · intro other notBefore before
        rw [atPoint] at notBefore
        exact established_of_joined rfl notBefore (Nat.lt_of_lt_of_le before bound)
      · intro other holds
        cases other with
        | health => exact .inl rfl
        | worker worker => exact .inr holds
        | metrics => exact .inr holds
        | log => exact .inr holds
      · intro other holds
        cases other with
        | health => exact hasHandle
        | worker worker => exact holds
        | metrics => exact holds
        | log => exact holds
  case isFalse noHandle =>
      cases taken
      refine ⟨_, inRun.goto plumbed sameHold_setRun rfl forward
        (inRun.stopping_iff notHere elsewhere) ?_⟩
      intro other notBefore before
      rw [atPoint] at notBefore
      have done : balancer.healthHandle = false := Bool.eq_false_iff.mpr noHandle
      exact established_of_joined done notBefore (Nat.lt_of_lt_of_le before bound)

/-- `shutdown_threads` joins a worker. -/
theorem InRun.joinWorker {worker : Nat} {rest : List Nat} (inRun : InRun balancer run)
    (atPoint : run.point = .joinWorkers) (handles : run.workers = worker :: rest)
    (plumbed : next.Plumbed)
    (taken : balancer.join (.worker worker) { run with workers := rest } = some next) :
    ∃ run', InRun next run' := by
  obtain ⟨exited, rfl⟩ := join_eq_some_iff.mp taken
  refine ⟨_, inRun.join exited plumbed rfl Iff.rfl ?_ ?_ ?_ ?_ ?_⟩
  · exact fun notYet => absurd (.inr (by rw [atPoint]; decide)) notYet
  · intro point established
    cases point with
    | joinWorkers =>
        rw [Established, handles] at established
        cases established
    | _ => exact established
  · intro point notBefore before
    exact absurd before (Nat.not_lt.mpr notBefore)
  · intro other holds
    cases other with
    | worker other =>
        rw [HoldsHandle, handles, List.mem_cons] at holds
        rcases holds with held | rfl | member
        · exact .inr (.inl held)
        · exact .inl rfl
        · exact .inr (.inr member)
    | _ => exact .inr holds
  · intro other holds
    cases other with
    | worker other =>
        rw [HoldsHandle, handles, List.mem_cons]
        exact holds.imp_right .inr
    | _ => exact holds

/-- `shutdown_threads` joins the metrics thread if it has its handle. -/
theorem InRun.joinMetrics (inRun : InRun balancer run) (atPoint : run.point = .joinMetrics)
    (plumbed : next.Plumbed)
    (taken : (if run.metrics = true then
        balancer.join .metrics { run with point := .shutdownLog, metrics := false }
      else some { balancer with run := some { run with point := .shutdownLog } }) =
      some next) :
    ∃ run', InRun next run' := by
  have notHere : ¬(run.point = .clearing ∨ run.point = .clearingThreads) := by
    rw [atPoint]
    decide
  split at taken
  case isTrue held =>
      obtain ⟨exited, rfl⟩ := join_eq_some_iff.mp taken
      refine ⟨_, inRun.join exited plumbed rfl (iff_of_false notHere (by simp))
        ?_ ?_ ?_ ?_ ?_⟩
      · exact fun notYet => absurd (.inr (show 8 < 13 by decide)) notYet
      · intro point established
        cases point with
        | joinMetrics => rfl
        | _ => exact established
      · intro point notBefore before
        rw [atPoint] at notBefore
        rw [Point.eq_of_rank (Nat.le_antisymm (Nat.le_of_lt_succ before) notBefore)]
        rfl
      · intro other holds
        cases other with
        | metrics => exact .inl rfl
        | _ => exact .inr holds
      · intro other holds
        cases other with
        | metrics => exact .inr held
        | _ => exact holds
  case isFalse none =>
      cases taken
      exact ⟨_, inRun.goNext plumbed sameHold_setRun rfl (by rw [atPoint]; rfl)
        (inRun.stopping_iff notHere (by decide))
        (by rw [atPoint]; exact Bool.eq_false_iff.mpr none)⟩

/-- `shutdown_threads` joins the log thread if it has its handle. -/
theorem InRun.joinLog (inRun : InRun balancer run) (atPoint : run.point = .joinLog)
    (plumbed : next.Plumbed)
    (taken : (if run.log = true then
        balancer.join .log { run with point := .returned, log := false }
      else some { balancer with run := some { run with point := .returned } }) = some next) :
    ∃ run', InRun next run' := by
  have notHere : ¬(run.point = .clearing ∨ run.point = .clearingThreads) := by
    rw [atPoint]
    decide
  split at taken
  case isTrue held =>
      obtain ⟨exited, rfl⟩ := join_eq_some_iff.mp taken
      refine ⟨_, inRun.join exited plumbed rfl (iff_of_false notHere (by simp))
        ?_ ?_ ?_ ?_ ?_⟩
      · exact fun notYet => absurd (.inr (show 8 < 16 by decide)) notYet
      · intro point established
        cases point with
        | joinLog => rfl
        | _ => exact established
      · intro point notBefore before
        rw [atPoint] at notBefore
        rw [Point.eq_of_rank (Nat.le_antisymm (Nat.le_of_lt_succ before) notBefore)]
        rfl
      · intro other holds
        cases other with
        | log => exact .inl rfl
        | _ => exact .inr holds
      · intro other holds
        cases other with
        | log => exact .inr held
        | _ => exact holds
  case isFalse none =>
      cases taken
      exact ⟨_, inRun.goNext plumbed sameHold_setRun rfl (by rw [atPoint]; rfl)
        (inRun.stopping_iff notHere (by decide))
        (by rw [atPoint]; exact Bool.eq_false_iff.mpr none)⟩

/-- The drop at the end of `Balancer::shutdown` begins. -/
theorem InRun.dropAgain (inRun : InRun balancer run) (atPoint : run.point = .returned)
    (plumbed : next.Plumbed)
    (taken : (if run.kind = .shutdown then
        some { balancer with run := some { run with kind := .dropAgain, point := .signal } }
      else none) = some next) :
    ∃ run', InRun next run' := by
  split at taken
  case isFalse => cases taken
  case isTrue =>
      cases taken
      refine ⟨_,
        { running := rfl
          plumbed := plumbed
          alone := ⟨inRun.alone.contextHandles, inRun.alone.logHandles, inRun.alone.calls⟩
          established := fun point _ => ?_
          untaken := fun notYet => absurd (.inl rfl) notYet
          stopping := inRun.stopping.trans (iff_of_false (by rw [atPoint]; decide) (by simp))
          held := inRun.held
          spawned := inRun.spawned
          joined := inRun.joined }⟩
      -- the whole sequence is behind
      have before : point.rank < 16 → Established balancer run point := fun less =>
        inRun.established point (.inr (by rw [atPoint]; exact less))
      cases point with
      | returned => trivial
      | _ => exact before (by decide)

/-- Every statement of the owner leads to another state of a sequence. -/
theorem InRun.shutdownStep {snapshot : Record} (inRun : InRun balancer run)
    (taken : balancer.shutdownStep run snapshot = some next) : ∃ run', InRun next run' := by
  have plumbed := plumbed_shutdownStep inRun.plumbed taken
  unfold Balancer.shutdownStep at taken
  cases point : run.point <;> simp only [point] at taken
  case signal =>
      cases taken
      exact ⟨_, inRun.goNext plumbed (sameHold_setPool .signal rfl) rfl (by rw [point]; rfl)
        (inRun.stopping_iff (by rw [point]; decide) (by decide)) (by rw [point]; rfl)⟩
  case stopHealth =>
      cases taken
      exact ⟨_, inRun.goNext plumbed
        ⟨{ Keeps.refl balancer with healthStop := fun _ => rfl }, rfl, rfl, rfl, rfl, rfl, rfl⟩
        rfl (by rw [point]; rfl)
        (inRun.stopping_iff (by rw [point]; decide) (by decide)) (by rw [point]; rfl)⟩
  case stopAccepting =>
      obtain ⟨pool, begun, rfl⟩ := Option.map_eq_some_iff.mp taken
      exact ⟨_, inRun.beginStop plumbed begun (by rw [point]; rfl) (.inl rfl)
        (by rw [point]; exact fun _ => trivial)⟩
  case clearing =>
      exact inRun.clearSenders plumbed taken (by rw [point]; rfl) (by decide)
        (by rw [point]; exact fun _ _ => trivial)
  case grace =>
      cases taken
      exact ⟨_, inRun.goNext plumbed sameHold_setRun rfl (by rw [point]; rfl)
        (inRun.stopping_iff (by rw [point]; decide) (by decide)) (by rw [point]; trivial)⟩
  case stopThreads =>
      obtain ⟨pool, begun, rfl⟩ := Option.map_eq_some_iff.mp taken
      exact ⟨_, inRun.beginStop plumbed begun (by rw [point]; rfl) (.inr rfl)
        (by rw [point]; exact fun _ => trivial)⟩
  case clearingThreads =>
      exact inRun.clearSenders plumbed taken (by rw [point]; rfl) (by decide)
        (by rw [point]; exact fun _ cleared => cleared)
  case takeHandles =>
      cases taken
      exact ⟨_, inRun.takeHandles point rfl plumbed⟩
  case detach =>
      cases taken
      have alone : balancer.contextRefs = 1 :=
        inRun.contextRefs (.inr (by rw [point]; decide))
      have same : SameHold balancer
          { balancer.detach with run := some { run with point := .dropMetricsTx } } := by
        rw [Balancer.detach, if_pos alone]
        exact ⟨{ Keeps.refl balancer with
          contextLogTx := fun _ => rfl, contextMetricsTx := fun _ => rfl },
          rfl, rfl, rfl, rfl, rfl, rfl⟩
      have samePool : balancer.detach.pool = balancer.pool := by
        rw [Balancer.detach, if_pos alone]
      refine ⟨_, inRun.goNext plumbed same rfl (by rw [point]; rfl) ?_ ?_⟩
      · change balancer.detach.pool.stopping = true ↔ _
        rw [samePool]
        exact inRun.stopping_iff (by rw [point]; decide) (by decide)
      · rw [point, Balancer.detach, if_pos alone]
        exact ⟨rfl, rfl⟩
  case dropMetricsTx =>
      cases taken
      exact ⟨_, inRun.goNext plumbed
        ⟨{ Keeps.refl balancer with poolMetricsTx := fun _ => rfl }, rfl, rfl, rfl, rfl, rfl,
          rfl⟩
        rfl (by rw [point]; rfl)
        (inRun.stopping_iff (by rw [point]; decide) (by decide)) (by rw [point]; rfl)⟩
  case shutdownLog =>
      cases taken
      have same : SameHold balancer
          { (if balancer.poolLogTx = true then balancer.trySendLog snapshot else balancer) with
            run := some { run with point := .dropLogTx } } := by
        have sent : Keeps balancer (balancer.trySendLog snapshot) := keeps_setThreads id id id
        split
        · exact ⟨{ sent with }, rfl, rfl, rfl, rfl, rfl, rfl⟩
        · exact sameHold_setRun
      have samePool : (if balancer.poolLogTx = true then balancer.trySendLog snapshot
          else balancer).pool = balancer.pool := by split <;> rfl
      refine ⟨_, inRun.goNext plumbed same rfl (by rw [point]; rfl) ?_ (by rw [point]; trivial)⟩
      change (if balancer.poolLogTx = true then balancer.trySendLog snapshot
        else balancer).pool.stopping = true ↔ _
      rw [samePool]
      exact inRun.stopping_iff (by rw [point]; decide) (by decide)
  case dropLogTx =>
      cases taken
      exact ⟨_, inRun.goNext plumbed
        ⟨{ Keeps.refl balancer with poolLogTx := fun _ => rfl }, rfl, rfl, rfl, rfl, rfl,
          rfl⟩
        rfl (by rw [point]; rfl)
        (inRun.stopping_iff (by rw [point]; decide) (by decide)) (by rw [point]; rfl)⟩
  case joinHealth =>
      refine inRun.joinHealth point plumbed ?_ taken
      split
      · exact .inl rfl
      · exact .inr rfl
  case joinWorkers =>
      split at taken
      case h_1 none =>
          cases taken
          exact ⟨_, inRun.goNext plumbed sameHold_setRun rfl (by rw [point]; rfl)
            (inRun.stopping_iff (by rw [point]; decide) (by decide))
            (by rw [point]; exact none)⟩
      case h_2 worker rest handles =>
          rw [← point] at taken
          exact inRun.joinWorker point handles plumbed taken
  case joinMetrics => exact inRun.joinMetrics point plumbed taken
  case joinLog => exact inRun.joinLog point plumbed taken
  case returned => exact inRun.dropAgain point plumbed taken

/-- Every step during a sequence leads to another state of a sequence. -/
theorem InRun.step [DecidableEq Stream] {action : Action Stream Record Stats}
    (inRun : InRun balancer run) (taken : balancer.step action = some next) :
    ∃ run', InRun next run' := by
  rcases step_during_run inRun.running inRun.alone taken with
    ⟨snapshot, rfl, owned⟩ | undisturbed
  · exact inRun.shutdownStep owned
  · exact ⟨run, inRun.undisturbed (plumbed_step inRun.plumbed taken) undisturbed⟩

end Balancer

end Mzani
