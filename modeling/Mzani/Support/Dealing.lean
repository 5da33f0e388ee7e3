import Mzani.Support.CyclicScan

/-!
# Dealing

A counter with a limit deals items to places round robin.  Which items fall to a
place, and that no place gets two more than another before the counter comes
round.
-/

namespace Support

variable {α : Type} {limit places place other : Nat} {items : List α}

/-- The items that fall to the place. -/
def dealt (limit places place : Nat) (items : List α) : List α :=
  (items.zipIdx.filter fun (_, ticket) => ticket % limit % places = place).map Prod.fst

@[simp] theorem dealt_nil : dealt limit places place ([] : List α) = [] := rfl

theorem dealt_concat (items : List α) (item : α) :
    dealt limit places place (items ++ [item]) =
      dealt limit places place items ++
        if items.length % limit % places = place then [item] else [] := by
  rw [dealt, List.zipIdx_append, List.filter_append, List.map_append, dealt]
  congr 1
  rw [List.zipIdx_singleton, List.filter_singleton, Nat.zero_add]
  by_cases mine : items.length % limit % places = place
  · simp [mine]
  · simp [mine]

theorem mem_of_mem_dealt {item : α} (member : item ∈ dealt limit places place items) :
    item ∈ items := by
  obtain ⟨entry, listed, rfl⟩ := List.mem_map.mp member
  exact List.fst_mem_of_mem_zipIdx (List.mem_filter.mp listed).1

/-- Every item falls to some place. -/
theorem exists_mem_dealt {limit : Nat} (positive : 0 < places) {item : α} (member : item ∈ items) :
    ∃ place < places, item ∈ dealt limit places place items := by
  obtain ⟨ticket, inside, rfl⟩ := List.mem_iff_getElem.mp member
  refine ⟨ticket % limit % places, Nat.mod_lt _ positive, ?_⟩
  refine List.mem_map.mpr ⟨(items[ticket], ticket), ?_, rfl⟩
  refine List.mem_filter.mpr ⟨?_, decide_eq_true rfl⟩
  exact List.mk_mem_zipIdx_iff_getElem?.mpr (List.getElem?_eq_getElem inside)

/-- Before the counter comes round a place gets as many items as it has turns. -/
theorem length_dealt (few : items.length ≤ limit) :
    (dealt limit places place items).length = turns places 0 items.length place := by
  induction items using List.reverseRecOn with
  | nil => rfl
  | append_singleton items item ih =>
      rw [List.length_append, List.length_singleton] at few
      have small : items.length % limit = items.length := Nat.mod_eq_of_lt few
      rw [dealt_concat, List.length_append, ih (by omega), small, turns, turns, List.length_append,
        List.length_singleton, List.range_succ, List.countP_append, List.countP_singleton,
        Nat.zero_add]
      congr 1
      split <;> simp_all

/-- No place gets two items more than another. -/
theorem dealt_balanced (few : items.length ≤ limit) (inside : place < places)
    (otherInside : other < places) :
    (dealt limit places place items).length ≤ (dealt limit places other items).length + 1 := by
  rw [length_dealt few, length_dealt few]
  exact turns_balanced 0 items.length inside otherInside

end Support
