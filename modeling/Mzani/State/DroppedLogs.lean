import Mzani.State.Health
import Mzani.State.MetricsFlow

/-!
# Dropped log records

`dropped_logs` counts the records that `emit_log` could not send.  It is the
number of refused records at every moment of a run exactly if no record that is
sent past the count, by the aggregator, by a sink or as the warning about drops,
finds the channel full.
-/

namespace Mzani

open Support

/-- The call of `emit_log` that is on sends its warning next. -/
def Running.Warns (running : Running) : Prop :=
  ∃ prev, running.emission = some (.warning prev)

/-- The aggregator sends a record next. -/
def Aggregating.reports : Aggregating → Bool
  | .reporting _ _ => true
  | .snapshotting => true
  | _ => false

namespace Observability

/-- The thread has had a record refused and not yet counted it. -/
def counting : Option Running → Nat
  | none => 0
  | some running => if running.emission = some .counting then 1 else 0

/-- What is counted, and what is about to be, are the refused records. -/
def DropsCounted (state : Observability) : Prop :=
  state.droppedLogs + Fin.ofNat u64Limit (tally counting state.threads) =
    Fin.ofNat u64Limit state.refusedLogs.length

/-- The log channel is full. -/
def Full (state : Observability) : Prop :=
  state.log.queue.length = state.log.capacity

section

variable {σ τ : Type}

/-- The activity sends a record that is not counted if it is refused. -/
def SendsPast (state : Observability) : Activity σ τ → Prop
  | .sink _ => True
  | .aggregate _ => state.aggregator.reports = true
  | .work thread => ∃ running, state.threads[thread]? = some (some running) ∧ running.Warns
  | _ => False

/-- The activity has a record refused that is not counted. -/
def Overlooks (state : Observability) (activity : Activity σ τ) : Prop :=
  state.Full ∧ state.SendsPast activity

end

/-- What a step does to the log channel and to the count: the records that are
refused, those of `emit_log` being counted or about to be. -/
structure Refuses (before after : Observability) (refused : List Emitter) : Prop where
  refusedLogs : after.refusedLogs = before.refusedLogs ++ refused
  receiver : after.log.receiver = before.log.receiver
  senders : after.log.senders = before.log.senders
  counted : after.droppedLogs + Fin.ofNat u64Limit (tally counting after.threads) =
    before.droppedLogs + Fin.ofNat u64Limit (tally counting before.threads) +
      Fin.ofNat u64Limit (refused.count .context)

/-- The log channel is open on both sides. -/
structure LogOpen (state : Observability) : Prop where
  receiver : state.log.receiver = true
  senders : 0 < state.log.senders

section

variable {state next : Observability}

theorem LogOpen.refuses {refused : List Emitter} (isOpen : state.LogOpen)
    (refuses : Refuses state next refused) : next.LogOpen := by
  constructor
  · rw [refuses.receiver]
    exact isOpen.receiver
  · rw [refuses.senders]
    exact isOpen.senders

/-- A step that leaves the log channel and the count alone. -/
theorem refuses_nothing (log : next.log = state.log)
    (droppedLogs : next.droppedLogs = state.droppedLogs)
    (refusedLogs : next.refusedLogs = state.refusedLogs)
    (threads : tally counting next.threads = tally counting state.threads) :
    Refuses state next [] := by
  constructor
  · rw [refusedLogs, List.append_nil]
  · rw [log]
  · rw [log]
  · rw [droppedLogs, threads]
    exact (Metrics.add_ofNat_zero _).symm

/-- A step of a thread that is not about to count, and will not be. -/
theorem refuses_setThread {thread : Nat} {old new : Option Running}
    (found : state.threads[thread]? = some old) (same : counting new = counting old) :
    Refuses state (state.setThread thread new) [] := by
  refine refuses_nothing rfl rfl rfl ?_
  have sum : tally counting (state.threads.set thread new) + counting old =
      tally counting state.threads + counting new := tally_set new found
  rw [same] at sum
  exact Nat.add_right_cancel sum

theorem Refuses.trans {last : Observability} {first second : List Emitter}
    (before : Refuses state next first) (after : Refuses next last second) :
    Refuses state last (first ++ second) := by
  constructor
  · rw [after.refusedLogs, before.refusedLogs, List.append_assoc]
  · rw [after.receiver, before.receiver]
  · rw [after.senders, before.senders]
  · rw [after.counted, before.counted, List.count_append, Metrics.ofNat_add, add_assoc]

/-- A record sent past the count. -/
theorem refuses_send (isOpen : state.LogOpen) {emitter : Emitter}
    (past : emitter ≠ .context) (record : LogRecord) :
    (state.Full ∧ Refuses state (state.send emitter record) [emitter]) ∨
      (¬state.Full ∧ Refuses state (state.send emitter record) []) := by
  unfold send
  split
  case h_1 log answer =>
      have sent := Channel.sent_of_trySend answer
      refine .inr ⟨?_, ?_⟩
      · intro full
        have refused : state.log.trySend record = .full :=
          Channel.trySend_eq_full_iff.mpr ⟨isOpen.receiver, full⟩
        rw [refused] at answer
        cases answer
      · refine ⟨(List.append_nil _).symm, sent.sameReceiver, sent.sameSenders, ?_⟩
        exact (Metrics.add_ofNat_zero _).symm
  case h_2 full =>
      refine .inl ⟨(Channel.trySend_eq_full_iff.mp full).2, rfl, rfl, rfl, ?_⟩
      rw [List.count_singleton, if_neg (by simpa using past)]
      exact (Metrics.add_ofNat_zero _).symm
  case h_3 gone =>
      have receiver := isOpen.receiver
      rw [Channel.receiver_of_trySend gone] at receiver
      cases receiver

/-- The outcome of a step: a record that is overlooked, or none, or one that is
about to be counted. -/
def Outcome (state next : Observability) (overlooks : Prop) : Prop :=
  (overlooks ∧ ∃ emitter, emitter ≠ .context ∧ Refuses state next [emitter]) ∨
    (¬overlooks ∧ (Refuses state next [] ∨ Refuses state next [.context]))

theorem outcome_quiet {overlooks : Prop} (quiet : ¬overlooks)
    (refuses : Refuses state next []) : Outcome state next overlooks :=
  .inr ⟨quiet, .inl refuses⟩

/-- A step that begins with a record sent past the count. -/
theorem outcome_send (isOpen : state.LogOpen) {emitter : Emitter} {overlooks : Prop}
    {record : LogRecord} (past : emitter ≠ .context) (when : overlooks ↔ state.Full)
    (after : Refuses (state.send emitter record) next []) :
    Outcome state next overlooks := by
  rcases refuses_send isOpen past record with ⟨full, refuses⟩ | ⟨room, refuses⟩
  · exact .inl ⟨when.mpr full, emitter, past, refuses.trans after⟩
  · exact .inr ⟨fun overlooks => room (when.mp overlooks), .inl (refuses.trans after)⟩

theorem Outcome.after {middle : Observability} {overlooks : Prop}
    (before : Refuses state middle []) (outcome : Outcome middle next overlooks) :
    Outcome state next overlooks := by
  rcases outcome with ⟨here, emitter, past, refuses⟩ | ⟨quiet, nothing | counted⟩
  · exact .inl ⟨here, emitter, past, before.trans refuses⟩
  · exact .inr ⟨quiet, .inl (before.trans nothing)⟩
  · exact .inr ⟨quiet, .inr (before.trans counted)⟩

theorem outcome_enter {thread : Nat} {handled : Handled} {overlooks : Prop}
    (quiet : ¬overlooks) (entered : state.enter thread handled = some next) :
    Outcome state next overlooks := by
  unfold enter at entered
  split at entered
  case h_1 found =>
      cases entered
      apply outcome_quiet quiet
      refine refuses_setThread found ?_
      rfl
  case h_2 => cases entered

/-- An effect of a call, or its return: nothing is sent yet. -/
theorem refuses_advance {thread : Nat} {running : Running}
    (found : state.threads[thread]? = some (some running))
    (waiting : running.emission = none) :
    Refuses state (state.advance thread running) [] := by
  have before : counting (some running) = 0 := by
    simp [counting, waiting]
  have goesOn : ∀ emission, emission ≠ some .counting →
      Refuses state (state.setThread thread
        (some { running with position := running.position + 1, emission })) [] := by
    intro emission notCounting
    apply refuses_setThread found
    rw [before]
    simp [counting, notCounting]
  unfold advance
  dsimp only
  split
  case h_1 =>
      have returned : Refuses state (state.setThread thread none) [] :=
        refuses_setThread found before.symm
      exact ⟨returned.refusedLogs, returned.receiver, returned.senders, returned.counted⟩
  case h_2 record _ => exact goesOn (some (.sending record)) nofun
  case h_3 stats _ =>
      have same : Refuses state (state.recordMetrics stats) [] := by
        unfold recordMetrics
        split <;> exact refuses_nothing rfl rfl rfl rfl
      have threads : (state.recordMetrics stats).threads = state.threads := by
        unfold recordMetrics
        split <;> rfl
      apply same.trans
      apply refuses_setThread (threads ▸ found)
      rw [before]
      simp [counting, waiting]
  case h_4 => exact goesOn running.emission (by simp [waiting])

/-- A step of `emit_log`. -/
theorem outcome_emit (isOpen : state.LogOpen) {thread : Nat} {running : Running}
    {emission : Emission} {overlooks : Prop}
    (found : state.threads[thread]? = some (some running))
    (emitting : running.emission = some emission)
    (when : overlooks ↔ state.Full ∧ ∃ prev, emission = .warning prev) :
    Outcome state ((state.emit emission).1.setThread thread
      (some { running with emission := (state.emit emission).2 })) overlooks := by
  cases emission with
  | sending record =>
      have before : counting (some running) = 0 := by
        simp [counting, emitting]
      have quiet : ¬overlooks := by
        rw [when]
        simp
      refine .inr ⟨quiet, ?_⟩
      unfold emit
      dsimp only
      split
      case h_1 log answer =>
          have sent := Channel.sent_of_trySend answer
          have channel : Refuses state { state with log } [] :=
            ⟨(List.append_nil _).symm, sent.sameReceiver, sent.sameSenders,
              (Metrics.add_ofNat_zero _).symm⟩
          apply Or.inl
          apply channel.trans
          refine refuses_setThread found ?_
          rw [before]
          rfl
      case h_2 =>
          apply Or.inr
          refine ⟨rfl, rfl, rfl, ?_⟩
          have sum : tally counting (state.threads.set thread
                (some { running with emission := some .counting })) +
                counting (some running) =
              tally counting state.threads + 1 := tally_set _ found
          have more : tally counting (state.threads.set thread
              (some { running with emission := some .counting })) =
                tally counting state.threads + 1 := by
            omega
          change state.droppedLogs + Fin.ofNat u64Limit (tally counting
            (state.threads.set thread (some { running with emission := some .counting }))) = _
          rw [more, Metrics.ofNat_add, add_assoc]
          rfl
      case h_3 gone =>
          have receiver := isOpen.receiver
          rw [Channel.receiver_of_trySend gone] at receiver
          cases receiver
  | counting =>
      have quiet : ¬overlooks := by
        rw [when]
        simp
      refine .inr ⟨quiet, .inl ⟨(List.append_nil _).symm, rfl, rfl, ?_⟩⟩
      have one : counting (some running) = 1 := by
        simp [counting, emitting]
      have none : counting (some { running with emission := (state.emit .counting).2 }) = 0 := by
        unfold counting emit
        dsimp only
        split <;> simp_all
      have sum : tally counting (state.threads.set thread
            (some { running with emission := (state.emit .counting).2 })) +
            counting (some running) =
          tally counting state.threads +
            counting (some { running with emission := (state.emit .counting).2 }) :=
        tally_set _ found
      rw [one, none] at sum
      change state.droppedLogs + 1 + Fin.ofNat u64Limit (tally counting
        (state.threads.set thread
          (some { running with emission := (state.emit .counting).2 }))) = _
      rw [List.count_nil, Metrics.add_ofNat_zero]
      exact (Metrics.ofNat_succ _ _).trans (congrArg (_ + Fin.ofNat u64Limit ·) sum)
  | warning prev =>
      have whenFull : overlooks ↔ state.Full := by
        rw [when]
        simp
      have past : Emitter.warning ≠ .context := nofun
      have threads : (state.send .warning (logDropped (prev + 1))).threads = state.threads :=
        (sameStats_send _ _).threads
      apply outcome_send isOpen past whenFull
      refine refuses_setThread (threads ▸ found) ?_
      simp [counting, emitting, emit]

section

variable {σ τ : Type} {snapshotRecord : Metrics → LogRecord}

theorem outcome_work (isOpen : state.LogOpen) {thread : Nat}
    (worked : state.work thread = some next) :
    Outcome state next (state.Overlooks (.work thread : Activity σ τ)) := by
  unfold work at worked
  split at worked
  case h_1 running found =>
      split at worked
      case h_1 emission emitting =>
          cases worked
          apply outcome_emit isOpen found emitting
          simp [Overlooks, SendsPast, Running.Warns, found, emitting]
      case h_2 waiting =>
          cases worked
          apply outcome_quiet _ (refuses_advance found waiting)
          simp [Overlooks, SendsPast, Running.Warns, found, waiting]
  case h_2 => cases worked

theorem outcome_aggregate (isOpen : state.LogOpen) {elapsed : Bool}
    (aggregated : state.aggregate snapshotRecord elapsed = some next) :
    Outcome state next (state.Overlooks (.aggregate elapsed : Activity σ τ)) := by
  have past : Emitter.aggregator ≠ .context := nofun
  unfold aggregate at aggregated
  split at aggregated
  case h_1 receiving =>
      have quiet : ¬state.Overlooks (.aggregate elapsed : Activity σ τ) := by
        simp [Overlooks, SendsPast, receiving, Aggregating.reports]
      split at aggregated
      · cases aggregated
        exact outcome_quiet quiet (refuses_nothing rfl rfl rfl rfl)
      · cases aggregated
        exact outcome_quiet quiet (refuses_nothing rfl rfl rfl rfl)
      · cases aggregated
  case h_2 stats received =>
      cases aggregated
      refine outcome_quiet ?_ (refuses_nothing rfl rfl rfl rfl)
      simp [Overlooks, SendsPast, received, Aggregating.reports]
  case h_3 stats due reporting =>
      cases aggregated
      refine outcome_send isOpen past ?_ (refuses_nothing rfl rfl rfl rfl)
      simp [Overlooks, SendsPast, reporting, Aggregating.reports]
  case h_4 snapshotting =>
      cases aggregated
      refine outcome_send isOpen past ?_ (refuses_nothing rfl rfl rfl rfl)
      simp [Overlooks, SendsPast, snapshotting, Aggregating.reports]
  case h_5 => cases aggregated

theorem refuses_write (isOpen : state.LogOpen) (written : state.write = some next) : Refuses state next [] := by
  unfold write at written
  split at written
  case h_1 record log answer =>
      have received := Channel.received_of_recv answer
      cases written
      exact ⟨(List.append_nil _).symm, received.sameReceiver, received.sameSenders,
        (Metrics.add_ofNat_zero _).symm⟩
  case h_2 gone =>
      have none := (Channel.recv_eq_disconnected_iff.mp gone).2
      have some := isOpen.senders
      omega
  case h_3 => cases written

/-- What a step refuses, and whether it is overlooked. -/
theorem outcome_step [Read σ] [Read τ] {context : WorkerContext} (isOpen : state.LogOpen)
    {activity : Activity σ τ}
    (taken : state.step snapshotRecord context activity = some next) :
    Outcome state next (state.Overlooks activity) := by
  cases activity with
  | call thread client around req => exact outcome_enter (fun overlooks => overlooks.2) taken
  | acceptEvent thread record => exact outcome_enter (fun overlooks => overlooks.2) taken
  | rejectPoolFull thread =>
      have rejected : Refuses state
          { state with metrics := state.metrics.recordPoolRejected } [] :=
        refuses_nothing rfl rfl rfl rfl
      exact (outcome_enter (fun overlooks => overlooks.2) taken).after rejected
  | work thread => exact outcome_work isOpen taken
  | aggregate elapsed => exact outcome_aggregate isOpen taken
  | write => exact outcome_quiet (fun overlooks => overlooks.2) (refuses_write isOpen taken)
  | sink record =>
      cases taken
      have past : Emitter.sink ≠ .context := nofun
      refine outcome_send isOpen past ?_ (refuses_nothing rfl rfl rfl rfl)
      simp [Overlooks, SendsPast]

end

/-! ## Runs -/

/-- All refused records are counted, or about to be. -/
def NoneOverlooked (state : Observability) : Prop :=
  state.refusedLogs.count .context = state.refusedLogs.length

/-- What holds of the log channel and of the count in every reachable state. -/
structure LogInvariant (state : Observability) : Prop extends LogOpen state where
  counted : state.droppedLogs + Fin.ofNat u64Limit (tally counting state.threads) =
    Fin.ofNat u64Limit (state.refusedLogs.count .context)

theorem LogInvariant.refuses {refused : List Emitter} (invariant : state.LogInvariant)
    (refuses : Refuses state next refused) : next.LogInvariant := by
  refine ⟨invariant.toLogOpen.refuses refuses, ?_⟩
  rw [refuses.counted, invariant.counted, refuses.refusedLogs, List.count_append,
    Metrics.ofNat_add]

theorem LogInvariant.outcome {overlooks : Prop} (invariant : state.LogInvariant)
    (outcome : Outcome state next overlooks) : next.LogInvariant := by
  rcases outcome with ⟨_, _, _, refuses⟩ | ⟨_, refuses | refuses⟩
  · exact invariant.refuses refuses
  · exact invariant.refuses refuses
  · exact invariant.refuses refuses

theorem NoneOverlooked.dropsCounted (invariant : state.LogInvariant)
    (none : state.NoneOverlooked) : state.DropsCounted := by
  rw [DropsCounted, invariant.counted, none]

/-- What a step overlooks stays overlooked. -/
theorem noneOverlooked_iff {overlooks : Prop} (outcome : Outcome state next overlooks) :
    next.NoneOverlooked ↔ state.NoneOverlooked ∧ ¬overlooks := by
  have bound : state.refusedLogs.count .context ≤ state.refusedLogs.length :=
    List.count_le_length
  unfold NoneOverlooked
  rcases outcome with ⟨here, emitter, past, refuses⟩ | ⟨quiet, refuses | refuses⟩
  · rw [refuses.refusedLogs, List.count_append, List.length_append, List.count_singleton,
      if_neg (by simpa using past), List.length_singleton]
    constructor
    · intro same
      omega
    · rintro ⟨_, never⟩
      exact absurd here never
  · rw [refuses.refusedLogs, List.append_nil]
    exact (and_iff_left quiet).symm
  · rw [refuses.refusedLogs, List.count_append, List.length_append]
    simp [quiet]

/-- The first record that is overlooked is missing in the count. -/
theorem noneOverlooked_of_dropsCounted {overlooks : Prop} (before : state.NoneOverlooked)
    (invariant : next.LogInvariant) (outcome : Outcome state next overlooks)
    (counted : next.DropsCounted) : next.NoneOverlooked := by
  rcases outcome with ⟨_, emitter, past, refuses⟩ | quiet
  · rw [DropsCounted, invariant.counted, refuses.refusedLogs, List.count_append,
      List.length_append, before, List.count_singleton, if_neg (by simpa using past),
      List.length_singleton, Metrics.ofNat_add _ 1] at counted
    exact absurd (left_eq_add.mp counted) (by decide)
  · exact (noneOverlooked_iff (.inr quiet)).mpr ⟨before, quiet.1⟩

/-- The first record finds room. -/
theorem logInvariant_start {config : PoolConfig} {valid : config.validate = .ok ()}
    {listen : SocketAddr} {backends : List SocketAddr} {threads : Nat} :
    (start config valid listen backends threads).LogInvariant ∧
      (start config valid listen backends threads).NoneOverlooked := by
  have room : ¬(spawn config valid threads).Full :=
    Nat.ne_of_lt (channels_positive valid).1
  have isOpen : (spawn config valid threads).LogOpen := ⟨rfl, Nat.zero_lt_succ 2⟩
  have none : tally counting (List.replicate threads (none : Option Running)) = 0 := by
    apply tally_eq_zero
    intro thread member
    rw [List.eq_of_mem_replicate member]
    rfl
  have spawned : (spawn config valid threads).LogInvariant := by
    refine ⟨isOpen, ?_⟩
    change 0 + Fin.ofNat u64Limit (tally counting (List.replicate threads Option.none)) = _
    rw [none]
    rfl
  have past : Emitter.sink ≠ .context := nofun
  rcases refuses_send isOpen past (serverStart listen backends config.workers.val) with
    ⟨full, _⟩ | ⟨_, refuses⟩
  · exact absurd full room
  · refine ⟨spawned.refuses refuses, ?_⟩
    unfold start NoneOverlooked
    rw [refuses.refusedLogs]
    rfl

section

variable {σ τ : Type} [Read σ] [Read τ] {snapshotRecord : Metrics → LogRecord}
  {context : WorkerContext} {start final : Observability}
  {activities : List (Activity σ τ)}

theorem logInvariant_run (invariant : start.LogInvariant)
    (run : (machine snapshotRecord context).run start activities = some final) :
    final.LogInvariant := by
  have preserves : (machine snapshotRecord context : Machine Observability
      (Activity σ τ)).Preserves LogInvariant := by
    intro before activity after held taken
    exact held.outcome (outcome_step held.toLogOpen taken)
  exact preserves.run invariant run

theorem noneOverlooked_of_throughout (invariant : start.LogInvariant)
    (none : start.NoneOverlooked)
    (always : (machine snapshotRecord context).Throughout start activities DropsCounted)
    (run : (machine snapshotRecord context).run start activities = some final) :
    final.NoneOverlooked := by
  apply Machine.Throughout.run_induction (fun _ state => state.NoneOverlooked) always none
    _ run
  intro labels state activity next reached reachedNext _ counted before taken
  have here : state.LogInvariant := logInvariant_run invariant reached
  exact noneOverlooked_of_dropsCounted before (logInvariant_run invariant reachedNext)
    (outcome_step here.toLogOpen taken) counted

/-- Nothing is overlooked in a run if nothing is in its steps. -/
theorem noneOverlooked_run_iff (invariant : start.LogInvariant) (none : start.NoneOverlooked)
    (run : (machine snapshotRecord context).run start activities = some final) :
    final.NoneOverlooked ↔
      ∀ before activity after middle, activities = before ++ activity :: after →
        (machine snapshotRecord context).run start before = some middle →
        ¬middle.Overlooks activity := by
  induction activities using List.reverseRecOn generalizing final with
  | nil =>
      rw [Machine.run_nil, Option.some.injEq] at run
      subst run
      apply iff_of_true none
      intro before activity after middle split
      simp at split
  | append_singleton activities activity ih =>
      obtain ⟨last, reached, taken⟩ := Machine.run_concat_eq_some_iff.mp run
      have here : last.LogInvariant := logInvariant_run invariant reached
      rw [noneOverlooked_iff (outcome_step here.toLogOpen taken), ih reached]
      constructor
      · rintro ⟨earlier, now⟩ before other after middle split runs
        rcases List.eq_nil_or_concat after with rfl | ⟨after, final, rfl⟩
        · obtain ⟨rfl, same⟩ := List.append_inj' split rfl
          cases same
          rw [reached, Option.some.injEq] at runs
          subst runs
          exact now
        · apply earlier before other after middle _ runs
          have whole : activities ++ [activity] = (before ++ other :: after) ++ [final] := by
            rw [split]
            simp
          exact (List.append_inj' whole rfl).1
      · intro never
        constructor
        · intro before other after middle split runs
          apply never before other (after ++ [activity]) middle _ runs
          rw [split]
          simp
        · exact never activities activity [] last rfl reached

end

end

/-- `dropped_logs` is the number of refused records throughout a run exactly if
no step of the run has a record refused past the count. -/
theorem dropsCounted_iff {σ τ : Type} [Read σ] [Read τ]
    (snapshotRecord : Metrics → LogRecord) (context : WorkerContext) (config : PoolConfig)
    (valid : config.validate = .ok ()) (listen : SocketAddr) (backends : List SocketAddr)
    (threads : Nat) (activities : List (Activity σ τ)) (final : Observability)
    (run : (machine snapshotRecord context).run (start config valid listen backends threads)
      activities = some final) :
    (machine snapshotRecord context).Throughout
        (start config valid listen backends threads) activities DropsCounted ↔
      ∀ before activity after middle, activities = before ++ activity :: after →
        (machine snapshotRecord context).run
          (start config valid listen backends threads) before = some middle →
        ¬middle.Overlooks activity := by
  obtain ⟨invariant, none⟩ : (start config valid listen backends threads).LogInvariant ∧
    (start config valid listen backends threads).NoneOverlooked := logInvariant_start
  constructor
  · intro always
    apply (noneOverlooked_run_iff invariant none run).mp
    exact noneOverlooked_of_throughout invariant none always run
  · intro never before after middle split reached
    apply NoneOverlooked.dropsCounted (logInvariant_run invariant reached)
    apply (noneOverlooked_run_iff invariant none reached).mpr
    intro first activity rest state inside
    apply never first activity (rest ++ after) state
    rw [split, inside]
    simp

/-- Room for one record, which the first record takes. -/
def oneRecord : PoolConfig := { logChannelCapacity := 1 }

theorem valid_oneRecord : oneRecord.validate = .ok () := by decide

/-- The accept loop logs an event. -/
def accepting : List (Activity (List Item) (List Item)) :=
  .rejectPoolFull 0 :: List.replicate 4 (.work 0)

theorem dropsCounted_accepting :
    ∃ final, (machine snapshotTotal frontContext).run
        (start oneRecord valid_oneRecord (.v4 localhost 8080) [] 1) accepting = some final ∧
      final.refusedLogs = [.context] ∧ final.droppedLogs = 1 ∧
      (machine snapshotTotal frontContext).Throughout
        (start oneRecord valid_oneRecord (.v4 localhost 8080) [] 1) accepting
        DropsCounted := by
  have shows : ((machine snapshotTotal frontContext).run
      (start oneRecord valid_oneRecord (.v4 localhost 8080) [] 1) accepting).map
        (fun final => (final.refusedLogs, final.droppedLogs)) = some ([.context], 1) := by
    decide +kernel
  obtain ⟨final, run, view⟩ := Option.map_eq_some_iff.mp shows
  obtain ⟨refused, dropped⟩ := Prod.mk.inj view
  have none : final.NoneOverlooked := by
    unfold NoneOverlooked
    rw [refused]
    rfl
  refine ⟨final, run, refused, dropped, ?_⟩
  apply (dropsCounted_iff snapshotTotal frontContext oneRecord valid_oneRecord
    (.v4 localhost 8080) [] 1 accepting final run).mpr
  exact (noneOverlooked_run_iff logInvariant_start.1 logInvariant_start.2 run).mp none

/-- The health monitor finds the channel full, and nothing is counted. -/
theorem unhealthy_uncounted :
    ∃ final, (machine snapshotTotal frontContext).run
        (start oneRecord valid_oneRecord (.v4 localhost 8080) [] 1)
        ([.sink (BackendSet.healthRecord false (.v4 localhost 9000))] :
          List (Activity (List Item) (List Item))) = some final ∧
      final.threads = [none] ∧ final.refusedLogs = [.sink] ∧ final.droppedLogs = 0 ∧
      ¬final.DropsCounted := by
  refine ⟨_, rfl, by decide +kernel, by decide +kernel, by decide +kernel, ?_⟩
  unfold DropsCounted
  decide +kernel

end Observability

end Mzani
