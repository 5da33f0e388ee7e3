import Mzani.Support.Machine

/-!
# Machines with outputs

Machines given by a partial step function with an output, and states that no
sequence of labels tells apart.  As a step is determined by its label, such
states stay alike along their runs, so what one of them can do the other can do
with the same outputs.
-/

namespace Support

universe u v w

/-- A machine whose steps give an output.  A label that is not enabled has no
next state. -/
structure Transducer (σ : Type u) (ε : Type v) (ω : Type w) where
  step : σ → ε → Option (σ × ω)

namespace Transducer

variable {σ : Type u} {ε : Type v} {ω : Type w} (machine : Transducer σ ε ω)

/-- The state after the labels with the outputs, if all labels are enabled in
turn. -/
def run : σ → List ε → Option (σ × List ω)
  | state, [] => some (state, [])
  | state, label :: labels =>
      match machine.step state label with
      | none => none
      | some (next, output) =>
          (run next labels).map fun (final, outputs) => (final, output :: outputs)

/-- What a run shows. -/
def trace (start : σ) (labels : List ε) : Option (List ω) :=
  (machine.run start labels).map (·.2)

/-- From both states the same labels are enabled, with the same outputs, after
any labels. -/
def Alike (left right : σ) : Prop :=
  ∀ labels, machine.trace left labels = machine.trace right labels

/-- From every state with the first property the labels lead to a state with the
second one. -/
def Leads (labels : List ε) (before after : σ → Prop) : Prop :=
  ∀ ⦃state⦄, before state →
    ∃ next outputs, machine.run state labels = some (next, outputs) ∧ after next

/-- The machine without its outputs. -/
def toMachine : Machine σ ε where
  step state label := (machine.step state label).map (·.1)

variable {machine} {start next final left right : σ} {label : ε} {labels more : List ε}
  {output : ω} {outputs : List ω}

@[simp] theorem run_nil : machine.run start [] = some (start, []) := rfl

theorem run_cons_eq_some_iff :
    machine.run start (label :: labels) = some (final, outputs) ↔
      ∃ next output rest, machine.step start label = some (next, output) ∧
        machine.run next labels = some (final, rest) ∧ outputs = output :: rest := by
  rw [run]
  cases machine.step start label with
  | none => simp
  | some taken =>
      obtain ⟨next, output⟩ := taken
      simp only [Option.map_eq_some_iff, Prod.mk.injEq, Prod.exists, Option.some.injEq]
      constructor
      · rintro ⟨last, rest, after, rfl, rfl⟩
        exact ⟨next, output, rest, ⟨rfl, rfl⟩, after, rfl⟩
      · rintro ⟨_, _, rest, ⟨rfl, rfl⟩, after, rfl⟩
        exact ⟨final, rest, after, rfl, rfl⟩

theorem run_cons (taken : machine.step start label = some (next, output))
    (after : machine.run next labels = some (final, outputs)) :
    machine.run start (label :: labels) = some (final, output :: outputs) :=
  run_cons_eq_some_iff.mpr ⟨next, output, outputs, taken, after, rfl⟩

theorem run_single (taken : machine.step start label = some (next, output)) :
    machine.run start [label] = some (next, [output]) :=
  run_cons taken run_nil

theorem run_append {middle : σ} {later : List ω}
    (first : machine.run start labels = some (middle, outputs))
    (second : machine.run middle more = some (final, later)) :
    machine.run start (labels ++ more) = some (final, outputs ++ later) := by
  induction labels generalizing start outputs with
  | nil =>
      simp only [run_nil, Option.some.injEq, Prod.mk.injEq] at first
      obtain ⟨rfl, rfl⟩ := first
      exact second
  | cons label labels ih =>
      obtain ⟨next, output, rest, taken, after, rfl⟩ := run_cons_eq_some_iff.mp first
      exact run_cons taken (ih after)

theorem run_concat {middle : σ}
    (first : machine.run start labels = some (middle, outputs))
    (last : machine.step middle label = some (final, output)) :
    machine.run start (labels ++ [label]) = some (final, outputs ++ [output]) :=
  run_append first (run_single last)

/-- The step that shows an output of a run. -/
theorem run_split {before after : List ω}
    (ran : machine.run start labels = some (final, before ++ output :: after)) :
    ∃ first label rest middle next, labels = first ++ label :: rest ∧
      machine.run start first = some (middle, before) ∧
      machine.step middle label = some (next, output) ∧
      machine.run next rest = some (final, after) := by
  induction before generalizing start labels with
  | nil =>
      cases labels with
      | nil => cases ran
      | cons label labels =>
          obtain ⟨next, shown, rest, taken, went, same⟩ := run_cons_eq_some_iff.mp ran
          obtain ⟨rfl, rfl⟩ := List.cons.inj same
          exact ⟨[], label, labels, start, next, rfl, run_nil, taken, went⟩
  | cons shown before ih =>
      cases labels with
      | nil => cases ran
      | cons label labels =>
          obtain ⟨next, other, rest, taken, went, same⟩ := run_cons_eq_some_iff.mp ran
          obtain ⟨rfl, rfl⟩ := List.cons.inj same
          obtain ⟨first, split, rest, middle, last, rfl, ranFirst, stepped, ranRest⟩ := ih went
          exact ⟨label :: first, split, rest, middle, last, rfl, run_cons taken ranFirst, stepped,
            ranRest⟩

/-- A run is one of the machine without outputs. -/
theorem run_toMachine (run : machine.run start labels = some (final, outputs)) :
    machine.toMachine.run start labels = some final := by
  induction labels generalizing start outputs with
  | nil =>
      simp only [run_nil, Option.some.injEq, Prod.mk.injEq] at run
      rw [run.1]
      rfl
  | cons label labels ih =>
      obtain ⟨next, output, rest, taken, after, rfl⟩ := run_cons_eq_some_iff.mp run
      refine Machine.run_cons_eq_some_iff.mpr ⟨next, ?_, ih after⟩
      simp [toMachine, taken]

/-- A relation that takes up the steps one after another, with their outputs, holds
over runs. -/
theorem run_relates {relation : σ → σ → List ω → Prop} (refl : ∀ state, relation state state [])
    (cons : ∀ {state next final label output outputs},
      machine.step state label = some (next, output) → relation next final outputs →
        relation state final (output :: outputs))
    (ran : machine.run start labels = some (final, outputs)) : relation start final outputs := by
  induction labels generalizing start outputs with
  | nil =>
      simp only [run_nil, Option.some.injEq, Prod.mk.injEq] at ran
      obtain ⟨rfl, rfl⟩ := ran
      exact refl start
  | cons label labels ih =>
      obtain ⟨next, output, rest, taken, after, rfl⟩ := run_cons_eq_some_iff.mp ran
      exact cons taken (ih after)

/-! ## Where labels lead -/

theorem Leads.refl (before : σ → Prop) : machine.Leads [] before before :=
  fun state held => ⟨state, [], rfl, held⟩

theorem Leads.cons {before middle after : σ → Prop}
    (first : ∀ ⦃state⦄, before state →
      ∃ next output, machine.step state label = some (next, output) ∧ middle next)
    (rest : machine.Leads labels middle after) :
    machine.Leads (label :: labels) before after := by
  intro state held
  obtain ⟨between, output, taken, heldThen⟩ := first held
  obtain ⟨last, outputs, ran, heldLast⟩ := rest heldThen
  exact ⟨last, output :: outputs, run_cons taken ran, heldLast⟩

theorem Leads.trans {before middle after : σ → Prop}
    (first : machine.Leads labels before middle) (rest : machine.Leads more middle after) :
    machine.Leads (labels ++ more) before after := by
  intro state held
  obtain ⟨between, outputs, ran, heldThen⟩ := first held
  obtain ⟨last, later, ranOn, heldLast⟩ := rest heldThen
  exact ⟨last, outputs ++ later, run_append ran ranOn, heldLast⟩

/-! ## States that are alike -/

theorem Alike.refl (state : σ) : machine.Alike state state := fun _ => rfl

theorem Alike.symm (alike : machine.Alike left right) : machine.Alike right left :=
  fun labels => (alike labels).symm

/-- A step that one of two states takes, the other takes too, and they stay
alike. -/
theorem Alike.step (alike : machine.Alike left right)
    (taken : machine.step left label = some (next, output)) :
    ∃ other, machine.step right label = some (other, output) ∧ machine.Alike next other := by
  have first := alike [label]
  simp only [trace, run, taken, Option.map_some] at first
  cases answer : machine.step right label with
  | none => simp [answer] at first
  | some pair =>
      obtain ⟨other, shown⟩ := pair
      simp only [answer, Option.map_some, Option.some.injEq, List.cons.injEq, and_true] at first
      subst first
      refine ⟨other, rfl, fun labels => ?_⟩
      have longer := alike (label :: labels)
      simp only [trace, run, taken, answer, Option.map_map] at longer
      have cut := congrArg (Option.map List.tail) longer
      simpa [Option.map_map, Function.comp_def, trace] using cut

/-- Two steps by one label show the same. -/
theorem Alike.steps {other : σ} {shown : ω} (alike : machine.Alike left right)
    (taken : machine.step left label = some (next, output))
    (also : machine.step right label = some (other, shown)) :
    output = shown ∧ machine.Alike next other := by
  obtain ⟨reached, answer, stays⟩ := alike.step taken
  rw [also, Option.some.injEq, Prod.mk.injEq] at answer
  obtain ⟨rfl, rfl⟩ := answer
  exact ⟨rfl, stays⟩

theorem Alike.run (alike : machine.Alike left right)
    (taken : machine.run left labels = some (next, outputs)) :
    ∃ other, machine.run right labels = some (other, outputs) ∧ machine.Alike next other := by
  induction labels generalizing left right outputs with
  | nil =>
      simp only [run_nil, Option.some.injEq, Prod.mk.injEq] at taken
      obtain ⟨rfl, rfl⟩ := taken
      exact ⟨right, rfl, alike⟩
  | cons label labels ih =>
      obtain ⟨middle, output, rest, first, after, rfl⟩ := run_cons_eq_some_iff.mp taken
      obtain ⟨between, answer, stays⟩ := alike.step first
      obtain ⟨other, others, still⟩ := ih stays after
      exact ⟨other, run_cons answer others, still⟩

/-- Two runs by the same labels show the same. -/
theorem Alike.runs {other : σ} {shown : List ω} (alike : machine.Alike left right)
    (taken : machine.run left labels = some (next, outputs))
    (also : machine.run right labels = some (other, shown)) :
    outputs = shown ∧ machine.Alike next other := by
  obtain ⟨reached, answer, stays⟩ := alike.run taken
  rw [also, Option.some.injEq, Prod.mk.injEq] at answer
  obtain ⟨rfl, rfl⟩ := answer
  exact ⟨rfl, stays⟩

/-- States that are alike stay so where labels lead both of them. -/
theorem Alike.leads {before after beforeRight afterRight : σ → Prop}
    (alike : machine.Alike left right) (leads : machine.Leads labels before after)
    (leadsRight : machine.Leads labels beforeRight afterRight) (held : before left)
    (heldRight : beforeRight right) :
    ∃ next other, machine.Alike next other ∧ after next ∧ afterRight other := by
  obtain ⟨next, outputs, ran, reached⟩ := leads held
  obtain ⟨other, others, ranRight, reachedRight⟩ := leadsRight heldRight
  exact ⟨next, other, (alike.runs ran ranRight).2, reached, reachedRight⟩

end Transducer

end Support
