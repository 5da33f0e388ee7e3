import Mzani.Balancer.Server
import Mzani.State.ProbeRecording

/-!
# What the monitor shows of its configuration

Two servers with the same backends that no sequence of events tells apart have
the same health configuration: a backend that is slow enough tells the connect
timeouts apart, the pauses between two rounds tell the intervals apart, and
outcomes in a row tell the thresholds apart.
-/

namespace Mzani

open Support

namespace BackendSet

/-- The outcomes in a row that set a backend to up or to down. -/
def threshold (health : HealthConfig) (ok : Bool) : U32 :=
  if ok = true then health.recoveryThreshold else health.failureThreshold

theorem threshold_pos {health : HealthConfig} (valid : health.validate = .ok ()) (ok : Bool) :
    0 < (threshold health ok).val := by
  obtain ⟨_, _, failures, recoveries⟩ := (HealthConfig.validate_eq_ok_iff health).mp valid
  apply Nat.pos_of_ne_zero
  intro zero
  cases ok with
  | false => exact failures (Fin.ext zero)
  | true => exact recoveries (Fin.ext zero)

variable {health : HealthConfig} {set : BackendSet} {addr : SocketAddr} {entry : BackendEntry}

theorem count_eq (health : HealthConfig) (entry : BackendEntry) (ok : Bool) :
    count health entry ok = recordedEntry ok (threshold health ok) entry := by
  rw [recordedEntry_eq]
  cases ok <;> rfl

theorem counter_count (ok : Bool) :
    counter ok (count health entry ok) = saturatingSucc (counter ok entry) ∧
      counter (!ok) (count health entry ok) = 0 := by
  rw [count_eq, ← counted_eq]
  exact counter_recordedEntry ok (threshold health ok) entry

theorem healthy_count (ok : Bool) :
    (count health entry ok).healthy =
      if threshold health ok ≤ saturatingSucc (counter ok entry) then ok
      else entry.healthy := by
  rw [count_eq, ← counted_eq]
  exact healthy_recordedEntry ok (threshold health ok) entry

theorem entryFor_recordProbe (found : set.entryFor addr = some entry) (ok : Bool) :
    (set.recordProbe health ⟨addr, ok⟩).entryFor addr = some (count health entry ok) := by
  have keeps : ∀ entry : BackendEntry, (count health entry ok).addr = entry.addr :=
    fun entry => addr_count health entry ok
  have modified := entryFor_modifyEntry set addr keeps
  rw [found] at modified
  rw [recordProbe_eq]
  exact modified

/-- A probe against the status is reported when it is the one that changes the
status. -/
theorem probeBackend_snd_eq_nil_iff {ok : Bool} (found : set.entryFor addr = some entry)
    (against : entry.healthy = !ok) :
    (set.probeBackend health ⟨addr, ok⟩).2 = [] ↔
      ¬threshold health ok ≤ saturatingSucc (counter ok entry) := by
  have before : set.isHealthy addr = !ok := by
    rw [isHealthy, found]
    exact against
  have after : (set.recordProbe health ⟨addr, ok⟩).isHealthy addr =
      if threshold health ok ≤ saturatingSucc (counter ok entry) then ok else !ok := by
    rw [isHealthy, entryFor_recordProbe found, ← against]
    exact healthy_count ok
  unfold probeBackend
  dsimp only
  rw [before, after]
  by_cases reached : threshold health ok ≤ saturatingSucc (counter ok entry)
  · cases ok <;> simp [reached]
  · cases ok <;> simp [reached]

end BackendSet

namespace Server

open BackendSet

variable {Stream : Type}

/-- The monitor with its copy of the configuration is here, and this is the
entry of the first address. -/
structure Watching (addr : SocketAddr) (tail : List SocketAddr) (health : HealthConfig)
    (entry : Option BackendEntry) (monitor : Monitoring) (server : Server Stream) :
    Prop where
  addresses : server.backends.addresses = addr :: tail
  health : server.health = health
  entry : server.backends.entryFor addr = entry
  monitor : server.monitor = monitor

variable {server left right : Server Stream} {addr : SocketAddr} {tail rest : List SocketAddr}
  {health other : HealthConfig} {entry : Option BackendEntry} {remaining : Duration}

/-! ## One step of the monitor -/

theorem watch_looping (watching : Watching addr tail health entry .looping server)
    (connects : Duration → Bool) :
    Watching addr tail health entry (.scanning (addr :: tail)) (server.watch connects).1 := by
  have step : (server.watch connects).1 =
      { server with monitor := .scanning server.backends.addresses } := by
    simp only [watch, watching.monitor]
  rw [step]
  exact { watching with monitor := congrArg Monitoring.scanning watching.addresses }

theorem watch_end (watching : Watching addr tail health entry (.scanning []) server)
    (connects : Duration → Bool) :
    Watching addr tail health entry (.sleeping health.interval) (server.watch connects).1 := by
  have step : (server.watch connects).1 =
      { server with monitor := .sleeping server.health.interval } := by
    simp only [watch, watching.monitor]
  have interval : server.health.interval = health.interval := by rw [watching.health]
  rw [step]
  exact { watching with monitor := congrArg Monitoring.sleeping interval }

theorem watch_awake (watching : Watching addr tail health entry (.sleeping 0) server)
    (connects : Duration → Bool) :
    server.watch connects = ({ server with monitor := .looping }, .quiet) := by
  simp only [watch, watching.monitor, if_true]

theorem watching_awake (watching : Watching addr tail health entry (.sleeping 0) server)
    (connects : Duration → Bool) :
    Watching addr tail health entry .looping (server.watch connects).1 := by
  rw [watch_awake watching]
  exact { watching with monitor := rfl }

theorem watch_asleep (positive : remaining ≠ 0)
    (watching : Watching addr tail health entry (.sleeping remaining) server)
    (connects : Duration → Bool) :
    server.watch connects =
      ({ server with monitor := .sleeping (remaining - min remaining Balancer.slice) },
        .slept (min remaining Balancer.slice)) := by
  simp only [watch, watching.monitor, if_neg positive]

theorem watching_asleep (positive : remaining ≠ 0)
    (watching : Watching addr tail health entry (.sleeping remaining) server)
    (connects : Duration → Bool) :
    Watching addr tail health entry (.sleeping (remaining - min remaining Balancer.slice))
      (server.watch connects).1 := by
  rw [watch_asleep positive watching]
  exact { watching with monitor := rfl }

theorem watch_probe {probed : SocketAddr}
    (watching : Watching addr tail health entry (.scanning (probed :: rest)) server)
    (connects : Duration → Bool) :
    (server.watch connects).2 =
        .probed ⟨probed, connects health.connectTimeout⟩
          ((server.backends.probeBackend health
            ⟨probed, connects health.connectTimeout⟩).2.map (·.2)) ∧
      (server.watch connects).1.backends =
        server.backends.recordProbe health ⟨probed, connects health.connectTimeout⟩ ∧
      (server.watch connects).1.health = server.health ∧
      (server.watch connects).1.monitor = .scanning rest := by
  rw [← watching.health, ← probeBackend_fst]
  simp only [watch, watching.monitor, and_self]

/-- A probe of the first address. -/
theorem watching_probe {entry : BackendEntry}
    (watching : Watching addr tail health (some entry) (.scanning (addr :: rest)) server)
    (connects : Duration → Bool) :
    Watching addr tail health (some (count health entry (connects health.connectTimeout)))
      (.scanning rest) (server.watch connects).1 := by
  obtain ⟨_, backends, sameHealth, monitor⟩ := watch_probe watching connects
  constructor
  · rw [backends, addresses_recordProbe]
    exact watching.addresses
  · rw [sameHealth]
    exact watching.health
  · rw [backends]
    exact entryFor_recordProbe watching.entry _
  · exact monitor

/-- A probe changes the entry of its address only. -/
theorem watching_probe_other {probed : SocketAddr} (different : probed ≠ addr)
    (watching : Watching addr tail health entry (.scanning (probed :: rest)) server)
    (connects : Duration → Bool) :
    Watching addr tail health entry (.scanning rest) (server.watch connects).1 := by
  obtain ⟨_, backends, sameHealth, monitor⟩ := watch_probe watching connects
  have keeps : ∀ entry : BackendEntry,
      (count health entry (connects health.connectTimeout)).addr = entry.addr :=
    fun entry => addr_count health entry _
  constructor
  · rw [backends, addresses_recordProbe]
    exact watching.addresses
  · rw [sameHealth]
    exact watching.health
  · rw [backends, recordProbe_eq]
    have kept := entryFor_modifyEntry_other server.backends (Ne.symm different) keeps
    rw [watching.entry] at kept
    exact kept
  · exact monitor

/-! ## Outcomes against the status -/

/-- Some outcomes in a row against the status. -/
structure Against (ok : Bool) (counted : Nat) (entry : BackendEntry) : Prop where
  healthy : entry.healthy = !ok
  counter : (counter ok entry).val = counted

/-- Before a probe of the first address, with some outcomes against its
status. -/
def Counting (addr : SocketAddr) (tail : List SocketAddr) (health : HealthConfig) (ok : Bool)
    (counted : Nat) (rest : List SocketAddr) (server : Server Stream) : Prop :=
  ∃ entry, Watching addr tail health (some entry) (.scanning (addr :: rest)) server ∧
    Against ok counted entry

/-- An outcome below the threshold is counted, and one at the threshold is
reported. -/
theorem Counting.watch {ok : Bool} {counted : Nat}
    (counting : Counting addr tail health ok counted rest server)
    (below : counted < (threshold health ok).val) :
    ∃ (records : List LogRecord) (entry : BackendEntry),
      (server.watch fun _ => ok).2 = .probed ⟨addr, ok⟩ records ∧
      (records = [] ↔ counted + 1 < (threshold health ok).val) ∧
      Watching addr tail health (some entry) (.scanning rest) (server.watch fun _ => ok).1 ∧
      (counted + 1 < (threshold health ok).val → Against ok (counted + 1) entry) ∧
      (¬counted + 1 < (threshold health ok).val → Against (!ok) 0 entry) := by
  obtain ⟨entry, watching, against, rfl⟩ := counting
  have small := (threshold health ok).isLt
  have succ : (saturatingSucc (counter ok entry)).val = (counter ok entry).val + 1 := by
    unfold saturatingSucc
    rw [dif_pos (by omega)]
  have reached : ¬threshold health ok ≤ saturatingSucc (counter ok entry) ↔
      (counter ok entry).val + 1 < (threshold health ok).val := by
    rw [Fin.le_def, succ, Nat.not_le]
  obtain ⟨sameCounter, otherCounter⟩ :
      counter ok (count health entry ok) = saturatingSucc (counter ok entry) ∧
        counter (!ok) (count health entry ok) = 0 := counter_count ok
  have status : (count health entry ok).healthy =
      if threshold health ok ≤ saturatingSucc (counter ok entry) then ok
      else entry.healthy := healthy_count ok
  refine ⟨_, _, (watch_probe watching _).1, ?_, watching_probe watching _, ?_, ?_⟩
  · rw [List.map_eq_nil_iff, probeBackend_snd_eq_nil_iff watching.entry against]
    exact reached
  · intro more
    rw [if_neg (reached.mpr more)] at status
    constructor
    · exact status.trans against
    · rw [sameCounter, succ]
  · intro last
    rw [if_pos (not_not.mp fun none => last (reached.mp none))] at status
    constructor
    · rw [Bool.not_not]
      exact status
    · rw [otherCounter]
      rfl

section

variable {σ τ : Type} [DecidableEq Stream] [Read σ] [Read τ]
  {snapshotRecord : Metrics → LogRecord}

/-! ## Back to the first address -/

theorem leads_monitor {before middle after : Server Stream → Prop}
    {events : List (Event Stream σ τ)} (connects : Duration → Bool)
    (watched : ∀ ⦃server⦄, before server → middle (server.watch connects).1)
    (rest : (machine snapshotRecord).Leads events middle after) :
    (machine snapshotRecord).Leads (.monitor connects :: events) before after := by
  apply Transducer.Leads.cons _ rest
  intro server held
  exact ⟨(server.watch connects).1, (server.watch connects).2, rfl, watched held⟩

variable (Stream σ τ snapshotRecord)

/-- The monitor wakes up. -/
theorem exists_wake (addr : SocketAddr) (tail : List SocketAddr) (remaining : Duration) :
    ∃ events : List (Event Stream σ τ), ∀ health entry,
      (machine snapshotRecord).Leads events
        (Watching addr tail health entry (.sleeping remaining))
        (Watching addr tail health entry .looping) := by
  induction remaining using Nat.strongRecOn with
  | ind remaining ih =>
      by_cases awake : remaining = 0
      · subst awake
        refine ⟨[.monitor fun _ => true], fun health entry => ?_⟩
        apply leads_monitor _ _ (.refl _)
        intro server watching
        exact watching_awake watching _
      · have pause : 0 < min remaining Balancer.slice :=
          lt_min (Nat.pos_of_ne_zero awake) (by decide)
        obtain ⟨events, wakes⟩ := ih _ (Nat.sub_lt (Nat.pos_of_ne_zero awake) pause)
        refine ⟨(.monitor fun _ => true) :: events, fun health entry => ?_⟩
        apply leads_monitor _ _ (wakes health entry)
        intro server watching
        exact watching_asleep awake watching _

/-- From anywhere in a round the monitor comes to the first address again, and
does not probe it on the way. -/
theorem exists_return (addr : SocketAddr) (tail : List SocketAddr) (interval : Duration)
    (rest : List SocketAddr) :
    ∃ (events : List (Event Stream σ τ)) (later : List SocketAddr), ∀ health entry,
      health.interval = interval →
        (machine snapshotRecord).Leads events
          (Watching addr tail health entry (.scanning rest))
          (Watching addr tail health entry (.scanning (addr :: later))) := by
  induction rest with
  | nil =>
      obtain ⟨events, wakes⟩ := exists_wake Stream σ τ snapshotRecord addr tail interval
      refine ⟨(.monitor fun _ => true) :: (events ++ [.monitor fun _ => true]), tail,
        fun health entry same => ?_⟩
      subst same
      have again : (machine snapshotRecord).Leads
          [(.monitor fun _ => true : Event Stream σ τ)]
          (Watching addr tail health entry .looping)
          (Watching addr tail health entry (.scanning (addr :: tail))) := by
        apply leads_monitor _ _ (.refl _)
        intro server watching
        exact watch_looping watching _
      apply leads_monitor _ _ ((wakes health entry).trans again)
      intro server watching
      exact watch_end watching _
  | cons probed rest ih =>
      by_cases here : probed = addr
      · subst here
        exact ⟨[], rest, fun health entry _ => .refl _⟩
      · obtain ⟨events, later, returns⟩ := ih
        refine ⟨(.monitor fun _ => true) :: events, later, fun health entry same => ?_⟩
        apply leads_monitor _ _ (returns health entry same)
        intro server watching
        exact watching_probe_other here watching _

/-- From anywhere in a round the monitor comes to the pause after it. -/
theorem exists_pause (addr : SocketAddr) (tail rest : List SocketAddr) :
    ∃ events : List (Event Stream σ τ), ∀ health,
      (machine snapshotRecord).Leads events
        (fun server => ∃ entry : BackendEntry,
          Watching addr tail health (some entry) (.scanning rest) server)
        (fun server => ∃ entry,
          Watching addr tail health entry (.sleeping health.interval) server) := by
  induction rest with
  | nil =>
      refine ⟨[.monitor fun _ => true], fun health => ?_⟩
      apply leads_monitor _ _ (.refl _)
      rintro server ⟨entry, watching⟩
      exact ⟨some entry, watch_end watching _⟩
  | cons probed rest ih =>
      obtain ⟨events, pauses⟩ := ih
      refine ⟨(.monitor fun _ => true) :: events, fun health => ?_⟩
      apply leads_monitor _ _ (pauses health)
      rintro server ⟨entry, watching⟩
      by_cases here : probed = addr
      · subst here
        exact ⟨_, watching_probe watching _⟩
      · exact ⟨entry, watching_probe_other here watching _⟩

/-! ## Servers that are alike -/

variable {Stream σ τ snapshotRecord}

theorem Alike.watch (alike : Alike σ τ snapshotRecord left right)
    (connects : Duration → Bool) :
    (left.watch connects).2 = (right.watch connects).2 ∧
      Alike σ τ snapshotRecord (left.watch connects).1 (right.watch connects).1 := by
  have taken : ∀ server : Server Stream,
      (machine snapshotRecord : Transducer _ (Event Stream σ τ) _).step server
        (.monitor connects) =
          some ((server.watch connects).1, (server.watch connects).2) := fun _ => rfl
  exact Transducer.Alike.steps alike (taken left) (taken right)

/-- The probe of a backend that connects within one timeout only. -/
theorem Alike.connectTimeout (alike : Alike σ τ snapshotRecord left right)
    (watching : Watching addr tail health entry (.scanning (addr :: rest)) left)
    (watchingOther : Watching addr tail other entry (.scanning (addr :: rest)) right) :
    health.connectTimeout = other.connectTimeout := by
  let connects (timeout : Duration) : Bool := decide (timeout = other.connectTimeout)
  have shown := (alike.watch connects).1
  rw [(watch_probe watching connects).1, (watch_probe watchingOther connects).1] at shown
  injection shown with sameProbe _
  injection sameProbe with _ sameOutcome
  simpa [connects] using sameOutcome

/-- The pauses are as long as the intervals. -/
theorem Alike.sleeping {remainingOther : Duration} {entryOther : Option BackendEntry}
    (alike : Alike σ τ snapshotRecord left right)
    (watching : Watching addr tail health entry (.sleeping remaining) left)
    (watchingOther : Watching addr tail other entryOther (.sleeping remainingOther) right) :
    remaining = remainingOther := by
  induction remaining using Nat.strongRecOn generalizing remainingOther left right with
  | ind remaining ih =>
      have slice : 0 < Balancer.slice := by decide
      obtain ⟨shown, stays⟩ := alike.watch fun _ => true
      by_cases awake : remaining = 0
      · subst awake
        by_cases awakeOther : remainingOther = 0
        · exact awakeOther.symm
        · rw [watch_awake watching, watch_asleep awakeOther watchingOther] at shown
          cases shown
      · by_cases awakeOther : remainingOther = 0
        · subst awakeOther
          rw [watch_asleep awake watching, watch_awake watchingOther] at shown
          cases shown
        · rw [watch_asleep awake watching, watch_asleep awakeOther watchingOther] at shown
          injection shown with samePause
          have pause : 0 < min remaining Balancer.slice :=
            lt_min (Nat.pos_of_ne_zero awake) slice
          have later := ih _ (Nat.sub_lt (Nat.pos_of_ne_zero awake) pause) stays
            (watching_asleep awake watching _) (watching_asleep awakeOther watchingOther _)
          calc remaining
              = remaining - min remaining Balancer.slice + min remaining Balancer.slice :=
                (Nat.sub_add_cancel (Nat.min_le_left _ _)).symm
            _ = remainingOther - min remainingOther Balancer.slice +
                min remainingOther Balancer.slice := by rw [later, samePause]
            _ = remainingOther := Nat.sub_add_cancel (Nat.min_le_left _ _)

theorem Alike.interval {entry : BackendEntry} (alike : Alike σ τ snapshotRecord left right)
    (watching : Watching addr tail health (some entry) (.scanning rest) left)
    (watchingOther : Watching addr tail other (some entry) (.scanning rest) right) :
    health.interval = other.interval := by
  obtain ⟨events, pauses⟩ := exists_pause Stream σ τ snapshotRecord addr tail rest
  obtain ⟨next, nextOther, stays, ⟨_, sleeping⟩, ⟨_, sleepingOther⟩⟩ :=
    Transducer.Alike.leads alike (pauses health) (pauses other) ⟨entry, watching⟩
      ⟨entry, watchingOther⟩
  exact Alike.sleeping stays sleeping sleepingOther

/-- Outcomes in a row tell the thresholds apart; with the last one the status
changes. -/
theorem Alike.threshold {ok : Bool} {counted : Nat} (alike : Alike σ τ snapshotRecord left right)
    (sameInterval : other.interval = health.interval)
    (counting : Counting addr tail health ok counted rest left)
    (countingOther : Counting addr tail other ok counted rest right)
    (below : counted < (threshold health ok).val)
    (belowOther : counted < (threshold other ok).val) :
    BackendSet.threshold health ok = BackendSet.threshold other ok ∧
      ∃ (later : List SocketAddr) (next nextOther : Server Stream),
        Alike σ τ snapshotRecord next nextOther ∧
        Counting addr tail health (!ok) 0 later next ∧
        Counting addr tail other (!ok) 0 later nextOther := by
  induction distance : (BackendSet.threshold health ok).val - counted
    generalizing counted left right rest with
  | zero => omega
  | succ distance ih =>
      obtain ⟨records, entry, shown, empty, watching, goesOn, changes⟩ :=
        counting.watch below
      obtain ⟨recordsOther, entryOther, shownOther, emptyOther, watchingOther, goesOnOther,
        changesOther⟩ := countingOther.watch belowOther
      obtain ⟨same, stays⟩ := alike.watch fun _ => ok
      rw [shown, shownOther] at same
      injection same with _ sameRecords
      have both : counted + 1 < (BackendSet.threshold health ok).val ↔
          counted + 1 < (BackendSet.threshold other ok).val := by
        rw [← empty, ← emptyOther, sameRecords]
      obtain ⟨events, later, returns⟩ :=
        exists_return Stream σ τ snapshotRecord addr tail health.interval rest
      obtain ⟨next, nextOther, alikeThen, watchingThen, watchingThenOther⟩ :=
        Transducer.Alike.leads stays (returns health (some entry) rfl)
          (returns other (some entryOther) sameInterval) watching watchingOther
      by_cases more : counted + 1 < (BackendSet.threshold health ok).val
      · have moreOther := both.mp more
        exact ih alikeThen ⟨entry, watchingThen, goesOn more⟩
          ⟨entryOther, watchingThenOther, goesOnOther moreOther⟩ more moreOther (by omega)
      · have lastOther := fun moreOther => more (both.mpr moreOther)
        refine ⟨Fin.ext (by omega), later, next, nextOther, alikeThen, ?_, ?_⟩
        · exact ⟨entry, watchingThen, changes more⟩
        · exact ⟨entryOther, watchingThenOther, changesOther lastOther⟩

/-- Servers that are alike before their first round have the same health
configuration. -/
theorem Alike.healthConfig {entry : BackendEntry} (alike : Alike σ τ snapshotRecord left right)
    (valid : health.validate = .ok ()) (validOther : other.validate = .ok ())
    (watching : Watching addr tail health (some entry) .looping left)
    (watchingOther : Watching addr tail other (some entry) .looping right)
    (up : entry.healthy = true) (unfailed : entry.consecutiveFailures = 0) :
    health = other := by
  have scanning := watch_looping watching fun _ => true
  have scanningOther := watch_looping watchingOther fun _ => true
  have alikeThen := (alike.watch fun _ => true).2
  have sameTimeout := alikeThen.connectTimeout scanning scanningOther
  have sameInterval := alikeThen.interval scanning scanningOther
  have fresh : Against false 0 entry := by
    constructor
    · exact up
    · exact congrArg Fin.val unfailed
  obtain ⟨sameFailures, later, next, nextOther, alikeDown, down, downOther⟩ :=
    alikeThen.threshold sameInterval.symm ⟨entry, scanning, fresh⟩
      ⟨entry, scanningOther, fresh⟩ (threshold_pos valid false)
      (threshold_pos validOther false)
  have sameSuccesses := (alikeDown.threshold sameInterval.symm down downOther
    (threshold_pos valid true) (threshold_pos validOther true)).1
  cases health
  cases other
  simp_all [BackendSet.threshold]

end

end Server

end Mzani
