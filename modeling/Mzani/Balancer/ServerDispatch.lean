import Mzani.Balancer.Server
import Mzani.Core.PoolDispatch

/-!
# Dispatch in a run

The accept loop is the one caller of `submit`, so in every run of a server each
worker takes the connections of its turns in the order of their arrival.
-/

namespace Mzani

open Support ThreadPool

variable {Stream : Type}

namespace Server

variable [DecidableEq Stream] {server next : Server Stream} {output : Output Stream}

theorem serves_accept {stream : Stream} {setReadTimeout : Duration → Except IoError Unit}
    (taken : server.accept stream setReadTimeout = some (next, output)) :
    Serves server.pool next.pool := by
  unfold accept at taken
  split at taken
  · cases taken
  case isFalse free =>
      split at taken
      · cases taken
        exact .idle
      · split at taken
        · cases taken
          exact .idle
        · obtain ⟨pool, entered, same⟩ := Option.map_eq_some_iff.mp taken
          cases same
          rw [not_or, not_not, List.length_eq_zero_iff] at free
          exact .arrive stream free.1 free.2 entered

theorem serves_submit (taken : server.submit = some (next, output)) :
    Serves server.pool next.pool := by
  unfold submit at taken
  split at taken
  case h_1 => cases taken
  case h_2 pool advanced =>
      split at taken
      · cases taken
        exact .advance advanced
      case h_2 stream error _ _ =>
          have samePool : (reject { server with pool } stream error).1.pool = pool := by
            cases error <;> rfl
          rw [Option.some.inj taken] at samePool
          rw [samePool]
          exact .advance advanced

theorem serves_work {worker : Nat} (taken : server.work worker = some (next, output)) :
    Serves server.pool next.pool := by
  unfold work at taken
  split at taken
  case h_1 task found =>
      cases task with
      | done result =>
          obtain ⟨pool, worked, same⟩ := Option.map_eq_some_iff.mp taken
          cases same
          exact .work worker worked
      | perform effect rest =>
          cases taken
          cases effect <;> exact .idle
      | select rest =>
          cases taken
          exact .idle
  case h_2 =>
      split at taken
      · cases taken
      · obtain ⟨pool, worked, same⟩ := Option.map_eq_some_iff.mp taken
        cases same
        exact .work worker worked

section

variable {σ τ : Type} [Read σ] [Read τ] {snapshotRecord : Metrics → LogRecord}

theorem serves_of_step {event : Event Stream σ τ}
    (taken : server.step snapshotRecord event = some (next, output)) :
    Serves server.pool next.pool := by
  cases event with
  | accept stream setReadTimeout => exact serves_accept taken
  | acceptError error =>
      simp only [step] at taken
      split at taken
      · cases taken
        exact .idle
      · cases taken
  | submit => exact serves_submit taken
  | work worker => exact serves_work taken
  | call worker meets =>
      simp only [step] at taken
      unfold call at taken
      split at taken
      · obtain ⟨pool, worked, same⟩ := Option.map_eq_some_iff.mp taken
        cases same
        exact .work worker worked
      · cases taken
  | aggregate elapsed =>
      obtain ⟨observability, _, same⟩ := Option.map_eq_some_iff.mp taken
      cases same
      exact .idle
  | write =>
      obtain ⟨observability, _, same⟩ := Option.map_eq_some_iff.mp taken
      cases same
      exact .idle
  | monitor connects =>
      have watched : (server.watch connects).1 = next :=
        congrArg Prod.fst (Option.some.inj taken)
      have same : next.pool = server.pool := by
        rw [← watched]
        unfold watch
        split
        · rfl
        · rfl
        · rfl
        · split <;> rfl
      rw [same]
      exact .idle

variable {config : BalancerConfig} {openLog : String → MzaniResult Unit}
  {events : List (Event Stream σ τ)} {outputs : List (Output Stream)}

/-- In every run the workers have their turns. -/
theorem inTurn_of_run (built : build config openLog = .ok server)
    (ran : (machine snapshotRecord).run server events = some (next, outputs)) :
    ∃ earlier, next.pool.InTurn config.pool.workers.val earlier := by
  have valid := (BalancerConfig.validate_eq_ok_iff config).mp (validate_of_build built)
  obtain ⟨positive, spawned⟩ := (started_of_build built).pool
  have start : server.pool.InTurn config.pool.workers.val [] := by
    rw [spawned]
    exact inTurn_spawn ((PoolConfig.validate_eq_ok_iff config.pool).mp valid.2.2.2).1
  apply Machine.run_induction
    (fun _ reached => ∃ earlier, reached.pool.InTurn config.pool.workers.val earlier)
    ⟨[], start⟩ _ (Transducer.run_toMachine ran)
  rintro _ reached event after ⟨earlier, held⟩ taken
  obtain ⟨⟨state, output⟩, stepped, rfl⟩ := Option.map_eq_some_iff.mp taken
  obtain ⟨more, later⟩ := held.serves (serves_of_step stepped)
  exact ⟨earlier ++ more, later⟩

/-- In every run the connections that are no longer in `submit` were dealt to the
workers.  Each worker has handled, moves and has queued, in this order, those of
its turns that were not turned away; no worker had two turns more than another. -/
theorem dispatch_of_run (built : build config openLog = .ok server)
    (ran : (machine snapshotRecord).run server events = some (next, outputs)) :
    ∃ earlier, next.pool.submitted = earlier ++ next.pool.contents .submitting ∧
      ∀ worker < config.pool.workers.val,
        next.pool.queuedFor worker =
          (dealt usizeLimit config.pool.workers.val worker earlier).filter
            (· ∉ next.pool.contents .returned) ∧
        (earlier.length ≤ usizeLimit → ∀ other < config.pool.workers.val,
          (dealt usizeLimit config.pool.workers.val worker earlier).length ≤
            (dealt usizeLimit config.pool.workers.val other earlier).length + 1) := by
  obtain ⟨earlier, inTurn⟩ := inTurn_of_run built ran
  refine ⟨earlier, inTurn.submitted, fun worker inside => ⟨inTurn.queues worker inside, ?_⟩⟩
  intro few other otherInside
  exact dealt_balanced few inside otherInside

end

/-- Two workers. -/
def twoLanes : BalancerConfig :=
  { backends := ⟨[.v4 localhost 9003], by decide⟩
    pool := { workers := 2, perWorkerQueue := 1 } }

/-- Four connections; the first worker takes its first one in time for the third
connection, and the fourth one finds the queue of the second worker full. -/
def fourArrivals : List (Event Nat Source Source) :=
  [.accept 1 fun _ => .ok (), .submit, .submit, .submit, .work 0,
    .accept 2 fun _ => .ok (), .submit, .submit, .submit,
    .accept 3 fun _ => .ok (), .submit, .submit, .submit,
    .accept 4 fun _ => .ok (), .submit, .submit, .submit]

theorem dispatch_of_run_fourArrivals :
    ∃ (server next : Server Nat) (outputs : List (Output Nat)) (earlier : List Nat),
      (machine fun _ => poolSaturated).run server fourArrivals = some (next, outputs) ∧
        next.pool.queuedFor 0 = [1, 3] ∧ next.pool.queuedFor 1 = [2] ∧
        next.pool.queuedFor 1 =
          (dealt usizeLimit 2 1 earlier).filter (· ∉ next.pool.contents .returned) := by
  obtain ⟨server, built⟩ : ∃ server : Server Nat, build twoLanes (fun _ => .ok ()) = .ok server :=
    ⟨_, rfl⟩
  have shows : ((build twoLanes fun _ => .ok () : MzaniResult (Server Nat)).toOption.bind
      fun server => (machine fun _ => poolSaturated).run server fourArrivals).map
        (fun (next, _) => (next.pool.queuedFor 0, next.pool.queuedFor 1)) =
      some ([1, 3], [2]) := by
    decide +kernel
  obtain ⟨⟨next, outputs⟩, ran, queues⟩ := Option.map_eq_some_iff.mp shows
  rw [built] at ran
  obtain ⟨first, second⟩ := Prod.mk.inj queues
  obtain ⟨earlier, _, turns⟩ := dispatch_of_run built ran
  exact ⟨server, next, outputs, earlier, ran, first, second, (turns 1 (by decide)).1⟩

end Server

end Mzani
