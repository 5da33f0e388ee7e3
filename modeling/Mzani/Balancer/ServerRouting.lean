import Mzani.Balancer.ServerCalls
import Mzani.Balancer.ServerRequests
import Mzani.State.ProbeHistory
import Mzani.Support.Slices

/-!
# Routing in a run

The calls of all workers draw from one counter, and one monitor probes for all of
them.  In every run a selection is determined by the probes and the number of
selections before it; and the monitor probes the backends in turn, with its
interval between two rounds.
-/

namespace Mzani

open Support BackendSet

variable {Stream : Type}

namespace Output

def probe? : Output Stream → Option Probe
  | .probed probe _ => some probe
  | _ => none

/-- What the monitor does: the address that it probes, or its pause. -/
def watched? : Output Stream → Option (SocketAddr ⊕ Duration)
  | .probed probe _ => some (.inl probe.addr)
  | .slept pause => some (.inr pause)
  | _ => none

end Output

namespace Server

variable {server next : Server Stream} {output : Output Stream}

/-! ## One step -/

/-- The step has nothing to do with the backends and the monitor. -/
structure Aside (server : Server Stream) (output : Output Stream) (next : Server Stream) :
    Prop where
  backends : next.backends = server.backends
  monitor : next.monitor = server.monitor
  selection : output.selection? = none
  probe : output.probe? = none
  watched : output.watched? = none

/-- What a step does to the backends and to the monitor: nothing, or it is a
selection or a step of the monitor. -/
inductive Steers (server : Server Stream) : Output Stream → Server Stream → Prop where
  | around {output : Output Stream} {next : Server Stream} :
      Aside server output next → Steers server output next
  | select {next : Server Stream} :
      next.backends = server.backends.selectNext.2 → next.monitor = server.monitor →
      Steers server (.selected server.backends.selectNext.1) next
  | watch (connects : Duration → Bool) :
      Steers server (server.watch connects).2 (server.watch connects).1

theorem aside_reject (server : Server Stream) (stream : Stream) (error : MzaniError) :
    Aside server (server.reject stream error).2 (server.reject stream error).1 := by
  cases error <;> exact ⟨rfl, rfl, rfl, rfl, rfl⟩

theorem steers_accept [DecidableEq Stream] {stream : Stream}
    {setReadTimeout : Duration → Except IoError Unit}
    (taken : server.accept stream setReadTimeout = some (next, output)) :
    Steers server output next := by
  unfold accept at taken
  split at taken
  · cases taken
  · split at taken
    · cases taken
      exact .around ⟨rfl, rfl, rfl, rfl, rfl⟩
    · split at taken
      · cases taken
        exact .around ⟨rfl, rfl, rfl, rfl, rfl⟩
      · obtain ⟨pool, _, same⟩ := Option.map_eq_some_iff.mp taken
        cases same
        exact .around ⟨rfl, rfl, rfl, rfl, rfl⟩

theorem steers_submit (taken : server.submit = some (next, output)) :
    Steers server output next := by
  unfold submit at taken
  split at taken
  · cases taken
  case h_2 pool _ =>
      split at taken
      · cases taken
        exact .around ⟨rfl, rfl, rfl, rfl, rfl⟩
      case h_2 stream error _ _ =>
          have rejected := aside_reject { server with pool } stream error
          rw [Option.some.inj taken] at rejected
          exact .around { rejected with }

theorem steers_work {worker : Nat} (taken : server.work worker = some (next, output)) :
    Steers server output next := by
  unfold work at taken
  split at taken
  case h_1 task found =>
      cases task with
      | done result =>
          obtain ⟨pool, _, same⟩ := Option.map_eq_some_iff.mp taken
          cases same
          exact .around ⟨rfl, rfl, rfl, rfl, rfl⟩
      | perform effect rest =>
          cases taken
          rw [apply_eq]
          exact .around ⟨rfl, rfl, rfl, rfl, rfl⟩
      | select rest =>
          cases taken
          exact .select rfl rfl
  case h_2 =>
      split at taken
      · cases taken
      · obtain ⟨pool, _, same⟩ := Option.map_eq_some_iff.mp taken
        cases same
        unfold refusal
        split
        · exact .around ⟨rfl, rfl, rfl, rfl, rfl⟩
        · exact .around ⟨rfl, rfl, rfl, rfl, rfl⟩

section

variable {σ τ : Type} [Read σ] [Read τ] [DecidableEq Stream]
  {snapshotRecord : Metrics → LogRecord}

theorem steers_of_step {event : Event Stream σ τ}
    (taken : server.step snapshotRecord event = some (next, output)) :
    Steers server output next := by
  cases event with
  | accept stream setReadTimeout => exact steers_accept taken
  | acceptError error =>
      simp only [step] at taken
      split at taken
      · cases taken
        exact .around ⟨rfl, rfl, rfl, rfl, rfl⟩
      · cases taken
  | submit => exact steers_submit taken
  | work worker => exact steers_work taken
  | call worker meets =>
      simp only [step] at taken
      unfold call at taken
      split at taken
      · obtain ⟨pool, _, same⟩ := Option.map_eq_some_iff.mp taken
        cases same
        exact .around ⟨rfl, rfl, rfl, rfl, rfl⟩
      · cases taken
  | aggregate elapsed =>
      obtain ⟨observability, _, same⟩ := Option.map_eq_some_iff.mp taken
      cases same
      unfold report
      split <;> exact .around ⟨rfl, rfl, rfl, rfl, rfl⟩
  | write =>
      obtain ⟨observability, _, same⟩ := Option.map_eq_some_iff.mp taken
      cases same
      unfold written
      split <;> exact .around ⟨rfl, rfl, rfl, rfl, rfl⟩
  | monitor connects =>
      have watched : server.watch connects = (next, output) := Option.some.inj taken
      have steers : Steers server (server.watch connects).2 (server.watch connects).1 :=
        .watch connects
      rw [watched] at steers
      exact steers

end

/-! ## Selections -/

/-- The backends are those of the configuration after the probes, and the counter
counts the selections. -/
structure Routes (health : HealthConfig) (addrs : List SocketAddr) (probes : List Probe)
    (selected : Nat) (server : Server Stream) : Prop where
  sameHealth : server.health = health
  mirrors : Mirrors health addrs probes server.backends
  ticket : server.backends.nextIndex.val = selected % usizeLimit

variable {health : HealthConfig} {addrs : List SocketAddr} {probes : List Probe} {selected : Nat}

theorem Routes.of_watch (routes : Routes health addrs probes selected server)
    (valid : health.validate = .ok ()) (connects : Duration → Bool) :
    Routes health addrs (probes ++ (server.watch connects).2.probe?.toList) selected
        (server.watch connects).1 ∧
      (server.watch connects).2.selection? = none := by
  unfold watch
  split
  · exact ⟨⟨routes.sameHealth, by simpa [Output.probe?] using routes.mirrors, routes.ticket⟩, rfl⟩
  · exact ⟨⟨routes.sameHealth, by simpa [Output.probe?] using routes.mirrors, routes.ticket⟩, rfl⟩
  case h_3 addr addrs _ =>
      have ticket : ∀ probe : Probe,
          (server.backends.recordProbe server.health probe).nextIndex =
            server.backends.nextIndex := fun probe => by rw [recordProbe_eq]; rfl
      obtain ⟨rfl, mirrors, counted⟩ := routes
      dsimp only
      rw [probeBackend_fst]
      refine ⟨⟨rfl, mirrors.recordProbe valid _, ?_⟩, rfl⟩
      rw [ticket, counted]
  · split
    · exact ⟨⟨routes.sameHealth, by simpa [Output.probe?] using routes.mirrors, routes.ticket⟩, rfl⟩
    · exact ⟨⟨routes.sameHealth, by simpa [Output.probe?] using routes.mirrors, routes.ticket⟩, rfl⟩

theorem Routes.step [DecidableEq Stream] (routes : Routes health addrs probes selected server)
    (valid : health.validate = .ok ()) (nonempty : addrs ≠ [])
    (sameHealth : next.health = server.health) (steers : Steers server output next) :
    Routes health addrs (probes ++ output.probe?.toList)
      (selected + output.selection?.toList.length) next := by
  cases steers with
  | around aside =>
      rw [aside.probe, aside.selection]
      simp only [Option.toList_none, List.append_nil, List.length_nil, Nat.add_zero]
      exact ⟨sameHealth.trans routes.sameHealth, aside.backends ▸ routes.mirrors,
        aside.backends ▸ routes.ticket⟩
  | select backends =>
      have inhabited : server.backends.entries.val.length ≠ 0 := by
        have length := congrArg List.length routes.mirrors.addresses
        rw [BackendSet.addresses, List.length_map] at length
        rw [length]
        exact (List.length_pos_iff.mpr nonempty).ne'
      refine ⟨sameHealth.trans routes.sameHealth, ?_, ?_⟩
      · rw [backends]
        simpa [Output.probe?] using routes.mirrors.selectNext
      · rw [backends, selectNext_eq inhabited]
        have counted : (server.backends.nextIndex + 1 : Usize).val =
            (server.backends.nextIndex.val + 1) % usizeLimit := Fin.val_add _ _
        rw [counted, routes.ticket, Nat.mod_add_mod]
        rfl
  | watch connects =>
      obtain ⟨watched, unselected⟩ := routes.of_watch valid connects
      rw [unselected]
      exact watched

section

variable {σ τ : Type} [Read σ] [Read τ] [DecidableEq Stream]
  {snapshotRecord : Metrics → LogRecord} {events : List (Event Stream σ τ)}
  {outputs : List (Output Stream)} {config : BalancerConfig}
  {openLog : String → MzaniResult Unit}

theorem Routes.run (routes : Routes health addrs probes selected server)
    (valid : health.validate = .ok ()) (nonempty : addrs ≠ [])
    (ran : (machine snapshotRecord).run server events = some (next, outputs)) :
    Routes health addrs (probes ++ outputs.filterMap Output.probe?)
      (selected + (outputs.filterMap Output.selection?).length) next := by
  refine @Transducer.run_relates _ _ _ (machine snapshotRecord) server next events outputs
    (fun first last outputs => ∀ probes selected, Routes health addrs probes selected first →
      Routes health addrs (probes ++ outputs.filterMap Output.probe?)
        (selected + (outputs.filterMap Output.selection?).length) last)
    ?_ ?_ ran probes selected routes
  · intro state probes selected routes
    simpa using routes
  · intro state middle last event output rest taken later probes selected routes
    have stepped := routes.step valid nonempty (evolves_of_step taken).health (steers_of_step taken)
    have reached := later _ _ stepped
    rw [List.filterMap_cons, List.filterMap_cons]
    cases probed : output.probe? <;> cases told : output.selection? <;>
      simpa [probed, told, Nat.add_assoc, Nat.add_comm 1] using reached

omit [DecidableEq Stream] in
theorem routes_of_build (built : build config openLog = .ok server) :
    Routes config.health config.backends.val [] 0 server := by
  have started := started_of_build built
  have valid := (BalancerConfig.validate_eq_ok_iff config).mp (validate_of_build built)
  refine ⟨started.health, ?_, ?_⟩
  · rw [started.backends]
    exact mirrors_new config.backends valid.2.2.1
  · rw [started.backends]
    rfl

end

/-- A backend is down after one failure. -/
def quickHealth : BalancerConfig :=
  { backends := ⟨[.v4 localhost 9005, .v4 localhost 9006], by decide⟩
    health := { failureThreshold := 1 }
    pool := { workers := 1, perWorkerQueue := 1 } }

/-- The first backend fails its probe and the second one does not; then a worker
has accepted a connection and asks for a backend. -/
def firstFails : List (Event Nat Source Source) :=
  [.monitor fun _ => true, .monitor fun _ => false, .monitor fun _ => true,
    .accept 1 fun _ => .ok (), .submit, .submit, .submit, .work 0, .work 0, .call 0 unreachable,
    .work 0]

/-- A round of the monitor: the backends in turn, and the pauses of
`sleep_interruptible`. -/
def round (addrs : List SocketAddr) (interval : Duration) : List (SocketAddr ⊕ Duration) :=
  addrs.map .inl ++ (slices Balancer.slice interval).map .inr

/-- The pauses of a round are short, and together they are the interval. -/
theorem pauses_round (addrs : List SocketAddr) (interval : Duration) :
    ((round addrs interval).filterMap Sum.getRight?).sum = interval ∧
      ∀ pause ∈ (round addrs interval).filterMap Sum.getRight?, pause ≤ Balancer.slice := by
  have pauses : (round addrs interval).filterMap Sum.getRight? =
      slices Balancer.slice interval := by
    rw [round, List.filterMap_append, List.filterMap_map, List.filterMap_map]
    have none : addrs.filterMap (Sum.getRight? ∘ (Sum.inl : SocketAddr → SocketAddr ⊕ Duration)) =
        [] := List.filterMap_eq_nil_iff.mpr fun _ _ => rfl
    rw [none]
    exact List.filterMap_some
  rw [pauses]
  exact ⟨sum_slices _ _, fun _ => le_of_mem_slices (by decide)⟩

/-- What is left of a round. -/
def remaining (interval : Duration) : Monitoring → List (SocketAddr ⊕ Duration)
  | .looping => []
  | .scanning addrs => round addrs interval
  | .sleeping left => round [] left

/-- The monitor has done this in whole rounds and the one that it is in. -/
structure Patrols (health : HealthConfig) (addrs : List SocketAddr)
    (shown : List (SocketAddr ⊕ Duration)) (server : Server Stream) : Prop where
  sameHealth : server.health = health
  addresses : server.backends.addresses = addrs
  rounds : ∃ rounds, shown ++ remaining health.interval server.monitor =
    (List.replicate rounds (round addrs health.interval)).flatten

variable {shown : List (SocketAddr ⊕ Duration)}

theorem Patrols.of_watch (patrols : Patrols health addrs shown server)
    (connects : Duration → Bool) :
    Patrols health addrs (shown ++ (server.watch connects).2.watched?.toList)
      (server.watch connects).1 := by
  obtain ⟨rfl, addresses, rounds, whole⟩ := patrols
  unfold watch
  split
  case h_1 looping =>
      refine ⟨rfl, addresses, rounds + 1, ?_⟩
      rw [looping, remaining, List.append_nil] at whole
      rw [List.replicate_succ', List.flatten_append, ← whole, addresses]
      simp [Output.watched?, remaining]
  case h_2 scanned =>
      refine ⟨rfl, addresses, rounds, ?_⟩
      rw [scanned] at whole
      simpa [Output.watched?, remaining] using whole
  case h_3 addr rest scanning =>
      refine ⟨rfl, ?_, rounds, ?_⟩
      · dsimp only
        rw [probeBackend_fst, addresses_recordProbe, addresses]
      · rw [scanning] at whole
        simpa [Output.watched?, remaining, round] using whole
  case h_4 left asleep =>
      rw [asleep] at whole
      split
      case isTrue awake =>
          refine ⟨rfl, addresses, rounds, ?_⟩
          simpa [Output.watched?, remaining, round, awake] using whole
      case isFalse sleeps =>
          refine ⟨rfl, addresses, rounds, ?_⟩
          rw [remaining, round, slices_of_pos (by decide) sleeps] at whole
          simpa [Output.watched?, remaining, round] using whole

theorem Patrols.step (patrols : Patrols health addrs shown server)
    (sameHealth : next.health = server.health) (steers : Steers server output next) :
    Patrols health addrs (shown ++ output.watched?.toList) next := by
  cases steers with
  | around aside =>
      rw [aside.watched, Option.toList_none, List.append_nil]
      refine ⟨sameHealth.trans patrols.sameHealth, ?_, ?_⟩
      · rw [aside.backends, patrols.addresses]
      · rw [aside.monitor]
        exact patrols.rounds
  | select backends monitor =>
      refine ⟨sameHealth.trans patrols.sameHealth, ?_, ?_⟩
      · rw [backends, BackendSet.addresses, entries_selectNext]
        exact patrols.addresses
      · rw [monitor]
        simpa [Output.watched?] using patrols.rounds
  | watch connects => exact patrols.of_watch connects

/-- A backend that the monitor is about to probe is one of the configuration. -/
theorem Patrols.known {addr : SocketAddr} {rest : List SocketAddr}
    (patrols : Patrols health addrs shown server)
    (scanning : server.monitor = .scanning (addr :: rest)) : addr ∈ addrs := by
  obtain ⟨rounds, whole⟩ := patrols.rounds
  rw [scanning] at whole
  have member : Sum.inl addr ∈ (List.replicate rounds (round addrs health.interval)).flatten := by
    rw [← whole]
    simp [remaining, round]
  obtain ⟨one, among, listed⟩ := List.mem_flatten.mp member
  rw [List.eq_of_mem_replicate among] at listed
  simpa [round] using listed

section

variable {σ τ : Type} [Read σ] [Read τ] [DecidableEq Stream]
  {snapshotRecord : Metrics → LogRecord} {events : List (Event Stream σ τ)}
  {outputs : List (Output Stream)} {config : BalancerConfig}
  {openLog : String → MzaniResult Unit}

theorem Patrols.run (patrols : Patrols health addrs shown server)
    (ran : (machine snapshotRecord).run server events = some (next, outputs)) :
    Patrols health addrs (shown ++ outputs.filterMap Output.watched?) next := by
  refine @Transducer.run_relates _ _ _ (machine snapshotRecord) server next events outputs
    (fun first last outputs => ∀ shown, Patrols health addrs shown first →
      Patrols health addrs (shown ++ outputs.filterMap Output.watched?) last)
    ?_ ?_ ran shown patrols
  · intro state shown patrols
    simpa using patrols
  · intro state middle last event output rest taken later shown patrols
    have stepped := patrols.step (evolves_of_step taken).health (steers_of_step taken)
    have reached := later _ stepped
    rw [List.filterMap_cons]
    cases watched : output.watched? <;> simpa [watched] using reached

omit [DecidableEq Stream] in
theorem patrols_of_build (built : build config openLog = .ok server) :
    Patrols config.health config.backends.val [] server := by
  have started := started_of_build built
  refine ⟨started.health, ?_, 0, ?_⟩
  · rw [started.backends]
    exact addresses_new config.backends
  · rw [started.monitor]
    rfl

/-- In every run the monitor probes all backends in turn, sleeps for its interval
in slices, and begins again; a probe is reported exactly if it changes the status
that the outcomes for its address give. -/
theorem monitoring_of_run (built : build config openLog = .ok server)
    (ran : (machine snapshotRecord).run server events = some (next, outputs)) :
    (∃ rounds, outputs.filterMap Output.watched? <+:
      (List.replicate rounds (round config.backends.val config.health.interval)).flatten) ∧
    ∀ before probe records after, outputs = before ++ .probed probe records :: after →
      Reports config.health (outcomes probe.addr (before.filterMap Output.probe?)) probe
        records := by
  have valid := (BalancerConfig.validate_eq_ok_iff config).mp (validate_of_build built)
  constructor
  · obtain ⟨rounds, whole⟩ := ((patrols_of_build built).run ran).rounds
    exact ⟨rounds, _, whole⟩
  · rintro before probe records after rfl
    obtain ⟨first, event, rest, middle, last, _, ranFirst, taken, _⟩ := Transducer.run_split ran
    have routes := (routes_of_build built).run valid.2.2.1 valid.1 ranFirst
    have patrols := (patrols_of_build built).run ranFirst
    rw [List.nil_append] at routes patrols
    have steers := steers_of_step taken
    generalize shown : Output.probed probe records = output at steers
    cases steers with
    | around aside =>
        rw [← shown] at aside
        cases aside.probe
    | select => cases shown
    | watch connects =>
        unfold watch at shown
        split at shown
        · cases shown
        · cases shown
        case h_3 addr addrs scanning =>
            cases shown
            rw [routes.sameHealth]
            exact routes.mirrors.reports valid.2.2.1 (patrols.known scanning)
        · split at shown <;> cases shown

end

theorem monitoring_of_run_firstFails :
    ∃ (server next : Server Nat) (outputs : List (Output Nat)),
      (machine fun _ => poolSaturated).run server firstFails = some (next, outputs) ∧
        outputs.filterMap Output.watched? =
          [.inl (.v4 localhost 9005), .inl (.v4 localhost 9006)] ∧
        ∃ rounds, outputs.filterMap Output.watched? <+: (List.replicate rounds
          (round quickHealth.backends.val quickHealth.health.interval)).flatten := by
  obtain ⟨server, built⟩ : ∃ server : Server Nat, build quickHealth (fun _ => .ok ()) = .ok server :=
    ⟨_, rfl⟩
  have shows : ((build quickHealth fun _ => .ok () : MzaniResult (Server Nat)).toOption.bind
      fun server => (machine fun _ => poolSaturated).run server firstFails).map
        (fun (_, outputs) => outputs.filterMap Output.watched?) =
      some [.inl (.v4 localhost 9005), .inl (.v4 localhost 9006)] := by
    decide +kernel
  obtain ⟨⟨next, outputs⟩, ran, watched⟩ := Option.map_eq_some_iff.mp shows
  rw [built] at ran
  exact ⟨server, next, outputs, ran, watched, (monitoring_of_run built ran).1⟩

end Server

end Mzani
