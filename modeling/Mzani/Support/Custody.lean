import Mathlib.Data.List.Basic
import Mathlib.Data.List.Nodup
import Mathlib.Data.List.Perm.Basic

/-!
# Custody

Items held at places.  A transfer brings a new item in, moves an item from one
place to another, or leaves everything where it is; in each case an item that
was in one place only stays in one place only.
-/

namespace Support

universe u v

variable {ι : Type u} {α : Type v}

/-- No item is in two places, or twice in one. -/
structure Exclusive (contents : ι → List α) : Prop where
  once : ∀ place, (contents place).Nodup
  onePlace : ∀ {item first second}, item ∈ contents first → item ∈ contents second →
    first = second

/-- An item that was nowhere comes to a place. -/
structure Enters (item : α) (target : ι) (before after : ι → List α) : Prop where
  fresh : ∀ place, item ∉ before place
  added : (after target).Perm (item :: before target)
  others : ∀ place, place ≠ target → after place = before place

/-- An item goes from one place to another. -/
structure Moves (item : α) (source target : ι) (before after : ι → List α) : Prop where
  distinct : source ≠ target
  removed : (before source).Perm (item :: after source)
  added : (after target).Perm (item :: before target)
  others : ∀ place, place ≠ source → place ≠ target → after place = before place

section

variable {item other : α} {source target : ι} {before after : ι → List α}

theorem Enters.mem_iff (enters : Enters item target before after) (place : ι) :
    other ∈ after place ↔ other ∈ before place ∨ (place = target ∧ other = item) := by
  by_cases same : place = target
  · subst same
    rw [enters.added.mem_iff, List.mem_cons]
    tauto
  · rw [enters.others place same]
    tauto

theorem Enters.exclusive (enters : Enters item target before after)
    (exclusive : Exclusive before) : Exclusive after := by
  constructor
  · intro place
    by_cases same : place = target
    · subst same
      rw [enters.added.nodup_iff, List.nodup_cons]
      exact ⟨enters.fresh place, exclusive.once place⟩
    · rw [enters.others place same]
      exact exclusive.once place
  · intro other first second inFirst inSecond
    rcases (enters.mem_iff first).mp inFirst with wasFirst | ⟨rfl, rfl⟩
    · rcases (enters.mem_iff second).mp inSecond with wasSecond | ⟨_, rfl⟩
      · exact exclusive.onePlace wasFirst wasSecond
      · exact absurd wasFirst (enters.fresh first)
    · rcases (enters.mem_iff second).mp inSecond with wasSecond | ⟨rfl, _⟩
      · exact absurd wasSecond (enters.fresh second)
      · rfl

/-- Apart from the item, every place holds what it held before. -/
theorem Moves.mem_iff (moves : Moves item source target before after)
    (place : ι) (different : other ≠ item) :
    other ∈ after place ↔ other ∈ before place := by
  by_cases atSource : place = source
  · subst atSource
    rw [moves.removed.mem_iff, List.mem_cons]
    tauto
  · by_cases atTarget : place = target
    · subst atTarget
      rw [moves.added.mem_iff, List.mem_cons]
      tauto
    · rw [moves.others place atSource atTarget]

theorem Moves.mem_item_iff (moves : Moves item source target before after)
    (exclusive : Exclusive before) (place : ι) : item ∈ after place ↔ place = target := by
  have inSource : item ∈ before source := moves.removed.mem_iff.mpr List.mem_cons_self
  by_cases atTarget : place = target
  · subst atTarget
    exact iff_of_true (moves.added.mem_iff.mpr List.mem_cons_self) rfl
  · refine iff_of_false ?_ atTarget
    by_cases atSource : place = source
    · subst atSource
      have nodup := (moves.removed.nodup_iff).mp (exclusive.once place)
      exact (List.nodup_cons.mp nodup).1
    · rw [moves.others place atSource atTarget]
      intro inPlace
      exact atSource (exclusive.onePlace inPlace inSource)

theorem Moves.exclusive (moves : Moves item source target before after)
    (exclusive : Exclusive before) : Exclusive after := by
  have inSource : item ∈ before source := moves.removed.mem_iff.mpr List.mem_cons_self
  constructor
  · intro place
    by_cases atSource : place = source
    · subst atSource
      have nodup := (moves.removed.nodup_iff).mp (exclusive.once place)
      exact (List.nodup_cons.mp nodup).2
    · by_cases atTarget : place = target
      · subst atTarget
        rw [moves.added.nodup_iff, List.nodup_cons]
        refine ⟨fun inTarget => ?_, exclusive.once place⟩
        exact moves.distinct (exclusive.onePlace inSource inTarget)
      · rw [moves.others place atSource atTarget]
        exact exclusive.once place
  · intro other first second inFirst inSecond
    by_cases same : other = item
    · subst same
      rw [(moves.mem_item_iff exclusive first).mp inFirst,
        (moves.mem_item_iff exclusive second).mp inSecond]
    · exact exclusive.onePlace ((moves.mem_iff first same).mp inFirst)
        ((moves.mem_iff second same).mp inSecond)

/-- What was somewhere is somewhere. -/
theorem Moves.exists_mem_iff (moves : Moves item source target before after) :
    (∃ place, other ∈ after place) ↔ ∃ place, other ∈ before place := by
  by_cases same : other = item
  · subst same
    exact iff_of_true ⟨target, moves.added.mem_iff.mpr List.mem_cons_self⟩
      ⟨source, moves.removed.mem_iff.mpr List.mem_cons_self⟩
  · exact exists_congr fun place => moves.mem_iff place same

theorem Enters.exists_mem_iff (enters : Enters item target before after) :
    (∃ place, other ∈ after place) ↔ (∃ place, other ∈ before place) ∨ other = item := by
  simp only [enters.mem_iff, exists_or, exists_eq_left]

/-- An item that is somewhere is in exactly one place, once. -/
theorem Exclusive.unique_place [DecidableEq α] (exclusive : Exclusive before)
    (present : ∃ place, item ∈ before place) :
    ∃ place, (before place).count item = 1 ∧
      ∀ other, other ≠ place → item ∉ before other := by
  obtain ⟨place, member⟩ := present
  refine ⟨place, List.count_eq_one_of_mem (exclusive.once place) member, ?_⟩
  intro other different inOther
  exact different (exclusive.onePlace inOther member)

end

end Support
