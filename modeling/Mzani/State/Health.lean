import Mzani.State.Backend
import Mzani.Support.Hysteresis
import Mzani.Utils.LogRecord

/-!
# Health of the backends

The monitor's loop over the backends and the state that its probes leave
behind: counters are the lengths of the last runs of outcomes, and a backend is
down exactly if a long enough run of failures came after every long enough run
of successes.
-/

namespace Mzani

open Support

/-- The outcome of probing an address. -/
structure Probe where
  addr : SocketAddr
  ok : Bool
  deriving DecidableEq

namespace BackendSet

/-- Records the outcome of a probe. -/
def recordProbe (config : HealthConfig) (set : BackendSet) (probe : Probe) : BackendSet :=
  if probe.ok = true then set.recordProbeSuccess probe.addr config.recoveryThreshold
  else set.recordProbeFailure probe.addr config.failureThreshold

/-- `backend_recovered` or `backend_unhealthy` -/
def healthRecord (recovered : Bool) (addr : SocketAddr) : LogRecord :=
  if recovered = true then
    (LogRecord.new .info "backend_recovered" .health).field "backend" (formatAddr addr)
  else (LogRecord.new .warn "backend_unhealthy" .health).field "backend" (formatAddr addr)

/-- What the body of `health_loop` does with an address and the outcome of its
probe; also what it emits, with the address. -/
def probeBackend (config : HealthConfig) (set : BackendSet) (probe : Probe) :
    BackendSet × List (SocketAddr × LogRecord) :=
  let wasHealthy := set.isHealthy probe.addr
  let next := set.recordProbe config probe
  if probe.ok = true then
    (next, if !wasHealthy && next.isHealthy probe.addr then
      [(probe.addr, healthRecord true probe.addr)] else [])
  else
    (next, if wasHealthy && !next.isHealthy probe.addr then
      [(probe.addr, healthRecord false probe.addr)] else [])

/-- The body, probe after probe. -/
def probeAll (config : HealthConfig) (set : BackendSet) :
    List Probe → BackendSet × List (SocketAddr × LogRecord)
  | [] => (set, [])
  | probe :: probes =>
      let (next, emitted) := set.probeBackend config probe
      let (last, more) := next.probeAll config probes
      (last, emitted ++ more)

/-- A round of `health_loop`: the outcomes of the probes made before `stop` is
read as set, and whether it is not. -/
def healthRound (config : HealthConfig) :
    List SocketAddr → List Bool → BackendSet →
      BackendSet × List (SocketAddr × LogRecord) × Bool
  | [], _, set => (set, [], true)
  | _ :: _, [], set => (set, [], false)
  | addr :: addrs, ok :: outcomes, set =>
      let (next, emitted) := set.probeBackend config { addr, ok }
      let (last, more, goesOn) := healthRound config addrs outcomes next
      (last, emitted ++ more, goesOn)

/-- `health_loop` over the addresses, with the outcomes round by round; at the
end of the rounds `stop` is read as set. -/
def healthLoop (config : HealthConfig) (addrs : List SocketAddr) :
    List (List Bool) → BackendSet → BackendSet × List (SocketAddr × LogRecord)
  | [], set => (set, [])
  | outcomes :: rounds, set =>
      match healthRound config addrs outcomes set with
      | (next, emitted, true) =>
          let (last, more) := healthLoop config addrs rounds next
          (last, emitted ++ more)
      | (next, emitted, false) => (next, emitted)

/-- The probes of a round. -/
def roundProbes (addrs : List SocketAddr) (outcomes : List Bool) : List Probe :=
  (addrs.zip outcomes).map fun (addr, ok) => { addr, ok }

/-- The probes that the loop makes. -/
def loopProbes (addrs : List SocketAddr) : List (List Bool) → List Probe
  | [] => []
  | outcomes :: rounds =>
      if outcomes.length < addrs.length then roundProbes addrs outcomes
      else roundProbes addrs outcomes ++ loopProbes addrs rounds

/-! ## The loop and its probes -/

variable {config : HealthConfig} {set : BackendSet}

theorem probeBackend_fst (config : HealthConfig) (set : BackendSet) (probe : Probe) :
    (set.probeBackend config probe).1 = set.recordProbe config probe := by
  unfold probeBackend
  dsimp only
  split <;> rfl

theorem probeAll_cons (config : HealthConfig) (set : BackendSet) (probe : Probe)
    (probes : List Probe) :
    set.probeAll config (probe :: probes) =
      (((set.recordProbe config probe).probeAll config probes).1,
        (set.probeBackend config probe).2 ++
          ((set.recordProbe config probe).probeAll config probes).2) := by
  simp [probeAll, probeBackend_fst]

theorem probeAll_append (config : HealthConfig) (set : BackendSet)
    (probes more : List Probe) :
    set.probeAll config (probes ++ more) =
      (((set.probeAll config probes).1.probeAll config more).1,
        (set.probeAll config probes).2 ++
          ((set.probeAll config probes).1.probeAll config more).2) := by
  induction probes generalizing set with
  | nil => simp [probeAll]
  | cons probe probes ih => simp [probeAll_cons, ih]

theorem healthRound_eq (addrs : List SocketAddr) (outcomes : List Bool) (set : BackendSet) :
    healthRound config addrs outcomes set =
      ((set.probeAll config (roundProbes addrs outcomes)).1,
        (set.probeAll config (roundProbes addrs outcomes)).2,
        decide (addrs.length ≤ outcomes.length)) := by
  induction addrs generalizing outcomes set with
  | nil => simp [healthRound, roundProbes, probeAll]
  | cons addr addrs ih =>
      cases outcomes with
      | nil => simp [healthRound, roundProbes, probeAll]
      | cons ok outcomes =>
          have split : roundProbes (addr :: addrs) (ok :: outcomes) =
              { addr, ok } :: roundProbes addrs outcomes := by
            simp [roundProbes]
          simp [healthRound, split, probeAll_cons, probeBackend_fst, ih]

/-- The loop is the body, over the probes that it makes. -/
theorem healthLoop_eq (addrs : List SocketAddr) (rounds : List (List Bool))
    (set : BackendSet) :
    healthLoop config addrs rounds set = set.probeAll config (loopProbes addrs rounds) := by
  induction rounds generalizing set with
  | nil => simp [healthLoop, loopProbes, probeAll]
  | cons outcomes rounds ih =>
      by_cases stopped : outcomes.length < addrs.length
      · have notAll : ¬addrs.length ≤ outcomes.length := Nat.not_le_of_lt stopped
        simp [healthLoop, healthRound_eq, loopProbes, stopped, notAll]
      · have all : addrs.length ≤ outcomes.length := Nat.le_of_not_lt stopped
        simp [healthLoop, healthRound_eq, loopProbes, stopped, all, ih, probeAll_append]

/-! ## One backend -/

/-- What the outcome of a probe does to the entry. -/
def count (config : HealthConfig) (entry : BackendEntry) (ok : Bool) : BackendEntry :=
  if ok = true then countSuccess config.recoveryThreshold entry
  else countFailure config.failureThreshold entry

theorem addr_count (config : HealthConfig) (entry : BackendEntry) (ok : Bool) :
    (count config entry ok).addr = entry.addr := by
  cases ok <;> rfl

theorem recordProbe_eq (config : HealthConfig) (set : BackendSet) (probe : Probe) :
    set.recordProbe config probe =
      set.modifyEntry probe.addr (fun entry => count config entry probe.ok) := by
  obtain ⟨addr, ok⟩ := probe
  cases ok <;> rfl

/-- The failures have reached their threshold. -/
def Failed (config : HealthConfig) (history : List Bool) : Prop :=
  config.failureThreshold.val ≤ trailingRun false history

/-- The successes have reached their threshold. -/
def Recovered (config : HealthConfig) (history : List Bool) : Prop :=
  config.recoveryThreshold.val ≤ trailingRun true history

/-- What an entry says about the outcomes of its probes. -/
structure Reflects (config : HealthConfig) (entry : BackendEntry) (history : List Bool) :
    Prop where
  failures : entry.consecutiveFailures.val = min (trailingRun false history) (u32Limit - 1)
  successes : entry.consecutiveSuccesses.val = min (trailingRun true history) (u32Limit - 1)
  down : entry.healthy = false ↔ LatestIs (Failed config) (Recovered config) history

theorem val_saturatingSucc {number : U32} {run : Nat}
    (capped : number.val = min run (u32Limit - 1)) :
    (saturatingSucc number).val = min (run + 1) (u32Limit - 1) := by
  have positive : 0 < u32Limit := by decide
  have small := number.isLt
  unfold saturatingSucc
  split
  case isTrue room =>
      dsimp only
      omega
  case isFalse full => omega

/-- A threshold is reached by the capped count if it is reached by the run. -/
theorem le_saturatingSucc_iff {threshold number : U32} {run : Nat}
    (capped : number.val = min run (u32Limit - 1)) :
    threshold ≤ saturatingSucc number ↔ threshold.val ≤ run + 1 := by
  have small := threshold.isLt
  rw [Fin.le_def, val_saturatingSucc capped]
  omega

theorem Reflects.count {entry : BackendEntry} {history : List Bool}
    (reflects : Reflects config entry history) (failurePositive : config.failureThreshold ≠ 0)
    (recoveryPositive : config.recoveryThreshold ≠ 0) (ok : Bool) :
    Reflects config (count config entry ok) (history ++ [ok]) := by
  have failureNonzero : config.failureThreshold.val ≠ 0 := fun zero =>
    failurePositive (Fin.ext zero)
  have recoveryNonzero : config.recoveryThreshold.val ≠ 0 := fun zero =>
    recoveryPositive (Fin.ext zero)
  cases ok with
  | true =>
      have noFailure : trailingRun false (history ++ [true]) = 0 :=
        trailingRun_concat_other (by simp) history
      have oneMore : trailingRun true (history ++ [true]) = trailingRun true history + 1 :=
        trailingRun_concat_self true history
      constructor
      · rw [noFailure]
        rfl
      · rw [oneMore]
        exact val_saturatingSucc reflects.successes
      · have notFailed : ¬Failed config (history ++ [true]) := by
          simp [Failed, noFailure, failureNonzero]
        have reached : config.recoveryThreshold ≤ saturatingSucc entry.consecutiveSuccesses ↔
            Recovered config (history ++ [true]) := by
          rw [Recovered, oneMore]
          exact le_saturatingSucc_iff reflects.successes
        rw [latestIs_concat_iff, ← reached, ← reflects.down]
        by_cases recovers :
            config.recoveryThreshold ≤ saturatingSucc entry.consecutiveSuccesses
        · simp [BackendSet.count, countSuccess, recovers, notFailed]
        · simp [BackendSet.count, countSuccess, recovers, notFailed]
  | false =>
      have noSuccess : trailingRun true (history ++ [false]) = 0 :=
        trailingRun_concat_other (by simp) history
      have oneMore : trailingRun false (history ++ [false]) = trailingRun false history + 1 :=
        trailingRun_concat_self false history
      constructor
      · rw [oneMore]
        exact val_saturatingSucc reflects.failures
      · rw [noSuccess]
        rfl
      · have notRecovered : ¬Recovered config (history ++ [false]) := by
          simp [Recovered, noSuccess, recoveryNonzero]
        have reached : config.failureThreshold ≤ saturatingSucc entry.consecutiveFailures ↔
            Failed config (history ++ [false]) := by
          rw [Failed, oneMore]
          exact le_saturatingSucc_iff reflects.failures
        rw [latestIs_concat_iff, ← reached, ← reflects.down]
        by_cases fails : config.failureThreshold ≤ saturatingSucc entry.consecutiveFailures
        · simp [BackendSet.count, countFailure, fails]
        · simp [BackendSet.count, countFailure, fails, notRecovered]

theorem addr_foldl_count (config : HealthConfig) (entry : BackendEntry)
    (history : List Bool) : (history.foldl (count config) entry).addr = entry.addr := by
  induction history generalizing entry with
  | nil => rfl
  | cons ok history ih => rw [List.foldl_cons, ih, addr_count]

theorem reflects_foldl (addr : SocketAddr) (failurePositive : config.failureThreshold ≠ 0)
    (recoveryPositive : config.recoveryThreshold ≠ 0) (history : List Bool) :
    Reflects config
      (history.foldl (count config)
        { addr, healthy := true, consecutiveFailures := 0, consecutiveSuccesses := 0 })
      history := by
  induction history using List.reverseRecOn with
  | nil =>
      have failureNonzero : config.failureThreshold.val ≠ 0 := fun zero =>
        failurePositive (Fin.ext zero)
      constructor
      · simp
      · simp
      · simp [latestIs_nil_iff, Failed, failureNonzero]
  | append_singleton history ok ih =>
      rw [List.foldl_append]
      exact ih.count failurePositive recoveryPositive ok

/-! ## All backends -/

/-- The outcomes for one address. -/
def outcomes (addr : SocketAddr) (probes : List Probe) : List Bool :=
  (probes.filter fun probe => probe.addr = addr).map (·.ok)

theorem entries_recordProbe (distinct : set.addresses.Nodup) (probe : Probe) :
    (set.recordProbe config probe).entries.val =
      set.entries.val.map fun entry =>
        if entry.addr = probe.addr then count config entry probe.ok else entry := by
  rw [recordProbe_eq]
  exact modifyFirst_eq_map distinct probe.addr fun entry => count config entry probe.ok

theorem addresses_recordProbe (config : HealthConfig) (set : BackendSet) (probe : Probe) :
    (set.recordProbe config probe).addresses = set.addresses := by
  rw [recordProbe_eq]
  exact addresses_modifyEntry set probe.addr fun entry => addr_count config entry probe.ok

theorem nextIndex_probeAll (set : BackendSet) (probes : List Probe) :
    (set.probeAll config probes).1.nextIndex = set.nextIndex := by
  induction probes generalizing set with
  | nil => rfl
  | cons probe probes ih =>
      have kept : (set.recordProbe config probe).nextIndex = set.nextIndex := by
        rw [recordProbe_eq]
        rfl
      simp [probeAll_cons, ih, kept]

theorem addresses_probeAll (set : BackendSet) (probes : List Probe) :
    (set.probeAll config probes).1.addresses = set.addresses := by
  induction probes generalizing set with
  | nil => rfl
  | cons probe probes ih => simp [probeAll_cons, ih, addresses_recordProbe]

/-- Each entry has counted the outcomes for its own address. -/
theorem entries_probeAll (config : HealthConfig) (distinct : set.addresses.Nodup)
    (probes : List Probe) :
    (set.probeAll config probes).1.entries.val =
      set.entries.val.map fun entry =>
        (outcomes entry.addr probes).foldl (count config) entry := by
  induction probes generalizing set with
  | nil => simp [probeAll, outcomes]
  | cons probe probes ih =>
      have distinct' : (set.recordProbe config probe).addresses.Nodup := by
        rwa [addresses_recordProbe]
      rw [probeAll_cons, ih distinct', entries_recordProbe distinct, List.map_map]
      apply List.map_congr_left
      intro entry member
      by_cases same : entry.addr = probe.addr
      · simp [outcomes, same, addr_count]
      · simp [outcomes, same, Ne.symm same]

/-! ## Events -/

/-- Whether the address is up after each of the probes. -/
def statuses (config : HealthConfig) (addr : SocketAddr) :
    BackendSet → List Probe → List Bool
  | _, [] => []
  | set, probe :: probes =>
      (set.recordProbe config probe).isHealthy addr ::
        statuses config addr (set.recordProbe config probe) probes

/-- What is emitted for the address. -/
def emittedFor (addr : SocketAddr) (emitted : List (SocketAddr × LogRecord)) :
    List LogRecord :=
  (emitted.filter fun entry => entry.1 = addr).map (·.2)

theorem isHealthy_recordProbe_other {addr : SocketAddr} {probe : Probe}
    (different : addr ≠ probe.addr) :
    (set.recordProbe config probe).isHealthy addr = set.isHealthy addr := by
  rw [recordProbe_eq, isHealthy, isHealthy]
  rw [entryFor_modifyEntry_other set different fun entry => addr_count config entry probe.ok]

/-- A success takes no backend down, and a failure none up. -/
theorem isHealthy_recordProbe_monotone (config : HealthConfig) (set : BackendSet)
    (probe : Probe) :
    (probe.ok = true → set.isHealthy probe.addr = true →
        (set.recordProbe config probe).isHealthy probe.addr = true) ∧
      (probe.ok = false → set.isHealthy probe.addr = false →
        (set.recordProbe config probe).isHealthy probe.addr = false) := by
  obtain ⟨addr, ok⟩ := probe
  rw [recordProbe_eq, isHealthy, isHealthy]
  rw [entryFor_modifyEntry set addr fun entry => addr_count config entry ok]
  cases set.entryFor addr with
  | none => simp
  | some entry =>
      constructor
      · rintro rfl up
        simp only [Option.any_some] at up
        simp [count, countSuccess, up]
      · rintro rfl down
        simp only [Option.any_some] at down
        simp [count, countFailure, down]

/-- A probe emits a record for its address exactly if the status flips. -/
theorem emitted_probeBackend (set : BackendSet) (probe : Probe) (addr : SocketAddr) :
    emittedFor addr (set.probeBackend config probe).2 =
      if (set.recordProbe config probe).isHealthy addr = set.isHealthy addr then []
      else [healthRecord ((set.recordProbe config probe).isHealthy addr) addr] := by
  by_cases same : addr = probe.addr
  · subst addr
    obtain ⟨up, down⟩ := isHealthy_recordProbe_monotone config set probe
    unfold probeBackend emittedFor
    dsimp only
    generalize (set.recordProbe config probe).isHealthy probe.addr = now at *
    generalize set.isHealthy probe.addr = before at *
    cases outcome : probe.ok with
    | true =>
        cases before with
        | true => simp [up outcome rfl]
        | false => cases now <;> simp
    | false =>
        cases before with
        | false => simp [down outcome rfl]
        | true => cases now <;> simp
  · have kept : (set.recordProbe config probe).isHealthy addr = set.isHealthy addr :=
      isHealthy_recordProbe_other same
    have others : ∀ entry ∈ (set.probeBackend config probe).2, entry.1 ≠ addr := by
      intro entry member
      unfold probeBackend at member
      dsimp only at member
      split at member
      · split at member
        · rw [List.mem_singleton.mp member]
          exact Ne.symm same
        · cases member
      · split at member
        · rw [List.mem_singleton.mp member]
          exact Ne.symm same
        · cases member
    rw [if_pos kept, emittedFor, List.filter_eq_nil_iff.mpr]
    · rfl
    · intro entry member
      simpa using others entry member

/-- What is emitted for an address are the flips of its status. -/
theorem emitted_probeAll (set : BackendSet) (probes : List Probe) (addr : SocketAddr) :
    emittedFor addr (set.probeAll config probes).2 =
      (flips (set.isHealthy addr) (statuses config addr set probes)).map fun up =>
        healthRecord up addr := by
  induction probes generalizing set with
  | nil => rfl
  | cons probe probes ih =>
      have split : emittedFor addr (set.probeAll config (probe :: probes)).2 =
          emittedFor addr (set.probeBackend config probe).2 ++
            emittedFor addr ((set.recordProbe config probe).probeAll config probes).2 := by
        simp [emittedFor, probeAll_cons]
      rw [split, emitted_probeBackend, ih, statuses, flips]
      by_cases same : (set.recordProbe config probe).isHealthy addr = set.isHealthy addr
      · rw [if_pos same, if_pos same, same, List.nil_append]
      · rw [if_neg same, if_neg same, List.map_cons, List.singleton_append]

/-! ## Hysteresis -/

/-- What a sequence of probes does to a set whose backends have not been probed
before. -/
structure Hysteresis (config : HealthConfig) (start : BackendSet) (probes : List Probe) :
    Prop where
  nextIndex : (start.probeAll config probes).1.nextIndex = start.nextIndex
  addresses : (start.probeAll config probes).1.addresses = start.addresses
  reflects : ∀ entry ∈ (start.probeAll config probes).1.entries.val,
    Reflects config entry (outcomes entry.addr probes)
  oneCounter : ∀ entry ∈ (start.probeAll config probes).1.entries.val,
    entry.consecutiveFailures = 0 ∨ entry.consecutiveSuccesses = 0
  untouched : ∀ entry ∈ start.entries.val, outcomes entry.addr probes = [] →
    entry ∈ (start.probeAll config probes).1.entries.val
  /-- `is_healthy` reads the flag of the entry. -/
  isHealthy : ∀ entry ∈ (start.probeAll config probes).1.entries.val,
    (start.probeAll config probes).1.isHealthy entry.addr = entry.healthy
  /-- The events for an address are the flips of its status, from up on, -/
  emitted : ∀ addr ∈ start.addresses,
    emittedFor addr (start.probeAll config probes).2 =
      (flips true (statuses config addr start probes)).map fun up => healthRecord up addr
  /-- so they alternate, and the first one says that the backend is down. -/
  alternating : ∀ addr,
    (true :: flips true (statuses config addr start probes)).IsChain (· ≠ ·)
  /-- Other addresses have no events. -/
  unknown : ∀ addr ∉ start.addresses,
    emittedFor addr (start.probeAll config probes).2 = []

/-- A set right after it is made, whatever selections were made on it. -/
def unprobed (addrs : Vec SocketAddr) (nextIndex : Usize) : BackendSet :=
  { new addrs with nextIndex }

theorem trailingRun_eq_zero (history : List Bool) :
    trailingRun false history = 0 ∨ trailingRun true history = 0 := by
  induction history using List.reverseRecOn with
  | nil => simp
  | append_singleton history ok _ =>
      cases ok with
      | true => exact .inl (trailingRun_concat_other (by simp) history)
      | false => exact .inr (trailingRun_concat_other (by simp) history)

theorem mem_unprobed_iff {addrs : Vec SocketAddr} {nextIndex : Usize}
    {entry : BackendEntry} :
    entry ∈ (unprobed addrs nextIndex).entries.val ↔
      ∃ addr ∈ addrs.val, entry =
        { addr, healthy := true, consecutiveFailures := 0, consecutiveSuccesses := 0 } := by
  simp [unprobed, new, eq_comm]

theorem addresses_unprobed (addrs : Vec SocketAddr) (nextIndex : Usize) :
    (unprobed addrs nextIndex).addresses = addrs.val :=
  addresses_new addrs

theorem isHealthy_unprobed {addrs : Vec SocketAddr} {nextIndex : Usize} {addr : SocketAddr}
    (known : addr ∈ addrs.val) (distinct : addrs.val.Nodup) :
    (unprobed addrs nextIndex).isHealthy addr = true := by
  have member : _ ∈ (unprobed addrs nextIndex).entries.val :=
    mem_unprobed_iff.mpr ⟨addr, known, rfl⟩
  have found := entryFor_of_mem (by rwa [addresses_unprobed]) member
  exact isHealthy_iff.mpr ⟨_, found, rfl⟩

theorem emittedFor_unknown {addr : SocketAddr} (unknown : addr ∉ set.addresses)
    (probes : List Probe) : emittedFor addr (set.probeAll config probes).2 = [] := by
  have absent {other : BackendSet} (same : other.addresses = set.addresses) :
      other.isHealthy addr = false := by
    have none : other.entryFor addr = none := by
      rw [entryFor, List.find?_eq_none]
      intro entry member
      simp only [decide_eq_true_eq]
      rintro rfl
      apply unknown
      rw [← same]
      exact List.mem_map_of_mem member
    rw [isHealthy, none]
    rfl
  induction probes generalizing set with
  | nil => rfl
  | cons probe probes ih =>
      have kept := addresses_recordProbe config set probe
      have split : emittedFor addr (set.probeAll config (probe :: probes)).2 =
          emittedFor addr (set.probeBackend config probe).2 ++
            emittedFor addr ((set.recordProbe config probe).probeAll config probes).2 := by
        simp [emittedFor, probeAll_cons]
      rw [split, emitted_probeBackend, absent kept, absent rfl, ih (by rwa [kept])]
      · simp
      · intro other same
        exact absent (same.trans kept)

/-- Hysteresis of the health of the backends; `health_loop` makes such a
sequence of probes. -/
theorem hysteresis {config : HealthConfig} {addrs : Vec SocketAddr}
    (distinct : addrs.val.Nodup) (failurePositive : config.failureThreshold ≠ 0)
    (recoveryPositive : config.recoveryThreshold ≠ 0) (nextIndex : Usize)
    (probes : List Probe) :
    Hysteresis config (unprobed addrs nextIndex) probes ∧
      ∀ rounds, healthLoop config addrs.val rounds (unprobed addrs nextIndex) =
        (unprobed addrs nextIndex).probeAll config (loopProbes addrs.val rounds) := by
  have distinct' : (unprobed addrs nextIndex).addresses.Nodup := by
    rwa [addresses_unprobed]
  have entries := entries_probeAll config distinct' probes
  have reflects : ∀ entry ∈ ((unprobed addrs nextIndex).probeAll config probes).1.entries.val,
      Reflects config entry (outcomes entry.addr probes) := by
    intro entry member
    rw [entries] at member
    obtain ⟨start, startMember, rfl⟩ := List.mem_map.mp member
    obtain ⟨addr, _, rfl⟩ := mem_unprobed_iff.mp startMember
    rw [addr_foldl_count]
    exact reflects_foldl addr failurePositive recoveryPositive (outcomes addr probes)
  refine ⟨?_, fun rounds => healthLoop_eq addrs.val rounds _⟩
  exact
    { nextIndex := nextIndex_probeAll _ probes
      addresses := addresses_probeAll _ probes
      reflects := reflects
      oneCounter := by
        intro entry member
        have counters := reflects entry member
        rcases trailingRun_eq_zero (outcomes entry.addr probes) with none | none
        · left
          apply Fin.ext
          rw [counters.failures, none]
          rfl
        · right
          apply Fin.ext
          rw [counters.successes, none]
          rfl
      untouched := by
        intro entry member none
        rw [entries]
        exact List.mem_map.mpr ⟨entry, member, by rw [none]; rfl⟩
      isHealthy := by
        intro entry member
        have found := entryFor_of_mem (by rwa [addresses_probeAll]) member
        rw [isHealthy, found]
        rfl
      emitted := by
        intro addr known
        rw [addresses_unprobed] at known
        rw [emitted_probeAll, isHealthy_unprobed known distinct]
      alternating := fun addr => isChain_flips true _
      unknown := fun addr unknown => emittedFor_unknown unknown probes }

/-- Two failures take the first backend down and a success brings it back; one
failure leaves the second one up. -/
def flapping : List Probe :=
  [⟨.v4 localhost 9000, false⟩, ⟨.v4 localhost 9001, false⟩, ⟨.v4 localhost 9000, false⟩,
    ⟨.v4 localhost 9002, false⟩, ⟨.v4 localhost 9000, true⟩]

theorem hysteresis_flapping :
    (emittedFor (.v4 localhost 9000)
        ((unprobed pair.backends 7).probeAll {} flapping).2).map (·.event) =
          ["backend_unhealthy", "backend_recovered"] ∧
      Hysteresis {} (unprobed pair.backends 7) flapping :=
  ⟨by decide +kernel,
    (hysteresis (by decide +kernel) (by decide) (by decide) 7 flapping).1⟩

end BackendSet

end Mzani
