import Mathlib.Data.List.Basic

/-!
# First matches

Changing the first item of a list that has a property, and lists in which an
item occurs twice.
-/

namespace Support

variable {α β : Type}

/-- Change the first item that matches. -/
def modifyFirst (matching : α → Bool) (change : α → α) : List α → List α
  | [] => []
  | head :: tail =>
      if matching head then change head :: tail
      else head :: modifyFirst matching change tail

@[simp] theorem length_modifyFirst (matching : α → Bool) (change : α → α)
    (items : List α) : (modifyFirst matching change items).length = items.length := by
  induction items with
  | nil => rfl
  | cons head tail induction =>
      unfold modifyFirst
      split <;> simp [induction]

/-- What the change keeps is kept. -/
theorem map_modifyFirst {matching : α → Bool} {change : α → α} {view : α → β}
    (keeps : ∀ item, view (change item) = view item) (items : List α) :
    (modifyFirst matching change items).map view = items.map view := by
  induction items with
  | nil => rfl
  | cons head tail induction =>
      unfold modifyFirst
      split <;> simp [induction, keeps]

theorem find?_modifyFirst {matching : α → Bool} {change : α → α}
    (keeps : ∀ item, matching (change item) = matching item) (items : List α) :
    (modifyFirst matching change items).find? matching =
      (items.find? matching).map change := by
  induction items with
  | nil => rfl
  | cons head tail induction =>
      unfold modifyFirst
      by_cases found : matching head = true
      · simp [found, keeps]
      · simp [found, induction]

theorem find?_modifyFirst_other {matching other : α → Bool} {change : α → α}
    (keeps : ∀ item, other (change item) = other item)
    (disjoint : ∀ item, matching item = true → other item = false) (items : List α) :
    (modifyFirst matching change items).find? other = items.find? other := by
  induction items with
  | nil => rfl
  | cons head tail induction =>
      unfold modifyFirst
      by_cases found : matching head = true
      · simp [found, keeps, disjoint head found]
      · simp only [found, Bool.false_eq_true, if_false, List.find?_cons, induction]

/-- An item is changed if it matches and none before it does. -/
theorem getElem?_modifyFirst (matching : α → Bool) (change : α → α) (items : List α)
    (index : Nat) :
    (modifyFirst matching change items)[index]? =
      if (items.take index).any matching = true then items[index]?
      else items[index]?.map fun item => if matching item = true then change item else item := by
  induction items generalizing index with
  | nil => simp [modifyFirst]
  | cons head tail induction =>
      unfold modifyFirst
      cases index with
      | zero => by_cases found : matching head = true <;> simp [found]
      | succ index =>
          by_cases found : matching head = true
          · simp [found]
          · simp [found, induction]

/-- Two changes one after the other. -/
theorem modifyFirst_modifyFirst {matching : α → Bool} {change : α → α}
    (keeps : ∀ item, matching (change item) = matching item) (more : α → α)
    (items : List α) :
    modifyFirst matching more (modifyFirst matching change items) =
      modifyFirst matching (more ∘ change) items := by
  induction items with
  | nil => rfl
  | cons head tail induction =>
      by_cases found : matching head = true
      · simp [modifyFirst, found, keeps]
      · simp [modifyFirst, found, induction]

/-- Only the first match is changed. -/
theorem modifyFirst_congr {matching : α → Bool} {change other : α → α} {items : List α}
    (same : ∀ item, items.find? matching = some item → change item = other item) :
    modifyFirst matching change items = modifyFirst matching other items := by
  induction items with
  | nil => rfl
  | cons head tail induction =>
      by_cases found : matching head = true
      · simp [modifyFirst, found, same head (by simp [found])]
      · have sameTail : ∀ item, tail.find? matching = some item →
            change item = other item := by
          intro item inTail
          apply same item
          simp [found, inTail]
        simp [modifyFirst, found, induction sameTail]

theorem modifyFirst_none {matching : α → Bool} {items : List α}
    (none : items.find? matching = none) (change : α → α) :
    modifyFirst matching change items = items := by
  induction items with
  | nil => rfl
  | cons head tail induction =>
      simp only [List.find?_cons] at none
      split at none
      · cases none
      case h_2 other => simp [modifyFirst, other, induction none]

/-- Among items with distinct keys the first match is the only one. -/
theorem modifyFirst_eq_map [DecidableEq β] {view : α → β} {items : List α}
    (distinct : (items.map view).Nodup) (key : β) (change : α → α) :
    modifyFirst (fun item => view item = key) change items =
      items.map fun item => if view item = key then change item else item := by
  induction items with
  | nil => rfl
  | cons head tail induction =>
      rw [List.map_cons, List.nodup_cons] at distinct
      by_cases found : view head = key
      · have others : ∀ item ∈ tail, view item ≠ key := by
          intro item member same
          apply distinct.1
          rw [found, ← same]
          exact List.mem_map_of_mem member
        have unchanged : (tail.map fun item =>
            if view item = key then change item else item) = tail.map id := by
          apply List.map_congr_left
          intro item member
          exact if_neg (others item member)
        simp [modifyFirst, found, unchanged]
      · simp [modifyFirst, found, induction distinct.2]

/-- An item that stands before a later one shields it from the change. -/
theorem modifyFirst_shielded {matching : α → Bool} (change : α → α)
    {before : List α} {item : α} (after : List α)
    (shielded : matching item = true → ∃ first ∈ before, matching first = true) :
    ∃ before' after',
      modifyFirst matching change (before ++ item :: after) = before' ++ item :: after' ∧
        (before' = before ∨ before' = modifyFirst matching change before) := by
  induction before with
  | nil =>
      have notMatching : matching item = false := by
        rw [Bool.eq_false_iff]
        intro found
        obtain ⟨_, member, _⟩ := shielded found
        simp at member
      exact ⟨[], modifyFirst matching change after, by simp [modifyFirst, notMatching],
        Or.inl rfl⟩
  | cons head before induction =>
      by_cases found : matching head = true
      · exact ⟨change head :: before, after, by simp [modifyFirst, found],
          Or.inr (by simp [modifyFirst, found])⟩
      · have shieldedLater : matching item = true →
            ∃ first ∈ before, matching first = true := by
          intro itemFound
          obtain ⟨first, member, firstFound⟩ := shielded itemFound
          rcases List.mem_cons.mp member with rfl | later
          · exact (found firstFound).elim
          · exact ⟨first, later, firstFound⟩
        obtain ⟨before', after', split, shape⟩ := induction shieldedLater
        refine ⟨head :: before', after', by simp [modifyFirst, found, split], ?_⟩
        rcases shape with rfl | rfl
        · exact Or.inl rfl
        · exact Or.inr (by simp [modifyFirst, found])

/-- A repeated item stands behind another occurrence. -/
theorem exists_repeated {items : List α} (repeated : ¬items.Nodup) :
    ∃ before item after, items = before ++ item :: after ∧ item ∈ before := by
  induction items with
  | nil => simp at repeated
  | cons head tail induction =>
      by_cases inTail : head ∈ tail
      · obtain ⟨before, after, rfl⟩ := List.append_of_mem inTail
        exact ⟨head :: before, head, after, rfl, by simp⟩
      · have tailRepeated : ¬tail.Nodup := fun nodup =>
          repeated (List.nodup_cons.mpr ⟨inTail, nodup⟩)
        obtain ⟨before, item, after, rfl, member⟩ := induction tailRepeated
        exact ⟨head :: before, item, after, rfl, List.mem_cons_of_mem _ member⟩

end Support
