import Mzani.Support.CyclicScan
import Mathlib.Data.List.Rotate

/-!
# Shares of a cyclic scan

Which tickets end at an accepted item: its own, and those of the rejected items
immediately before it.
-/

namespace Support

variable {α : Type} {accept : α → Bool} {items : List α}

/-- How many items immediately before the index, going round, are rejected. -/
def rejectedBefore (accept : α → Bool) (items : List α) (index : Nat) : Nat :=
  ((items.rotate index).reverse.takeWhile fun item => !accept item).length

theorem le_length_takeWhile_iff {holds : α → Bool} {count : Nat} :
    count ≤ (items.takeWhile holds).length ↔
      ∀ position < count, ∃ item, items[position]? = some item ∧ holds item = true := by
  induction items generalizing count with
  | nil =>
      simp only [List.takeWhile_nil, List.length_nil, List.getElem?_nil, reduceCtorEq,
        false_and, exists_false, imp_false, Nat.not_lt]
      constructor
      · intro none position
        omega
      · intro none
        exact none 0
  | cons first items ih =>
      cases count with
      | zero => simp
      | succ count =>
          by_cases held : holds first = true
          · rw [List.takeWhile_cons_of_pos held, List.length_cons, Nat.succ_le_succ_iff, ih]
            constructor
            · intro later position inside
              cases position with
              | zero => exact ⟨first, rfl, held⟩
              | succ position => exact later position (Nat.lt_of_succ_lt_succ inside)
            · intro all position inside
              exact all (position + 1) (Nat.succ_lt_succ inside)
          · rw [List.takeWhile_cons_of_neg held]
            constructor
            · intro impossible
              cases impossible
            · intro all
              obtain ⟨item, atZero, itemHeld⟩ := all 0 (Nat.succ_pos count)
              cases atZero
              exact absurd itemHeld held

/-- The rejected items before the index that a ticket reaches. -/
theorem le_rejectedBefore_iff {ticket count : Nat} (fits : count ≤ items.length) :
    count ≤ rejectedBefore accept items ((ticket + count) % items.length) ↔
      ∀ earlier < count, ∃ item, items[(ticket + earlier) % items.length]? = some item ∧
        accept item = false := by
  -- backwards from the index, position `p` is `count - 1 - p` places after the ticket
  have place : ∀ position < count,
      ((items.rotate ((ticket + count) % items.length)).reverse)[position]? =
        items[(ticket + (count - 1 - position)) % items.length]? := by
    intro position inside
    have within : position < items.length := by omega
    have rotated : (items.rotate ((ticket + count) % items.length)).length = items.length :=
      List.length_rotate _ _
    rw [List.getElem?_reverse (by rw [rotated]; exact within), rotated,
      List.getElem?_rotate (by omega), Nat.add_mod_mod]
    congr 1
    have sum : items.length - 1 - position + (ticket + count) =
        ticket + (count - 1 - position) + items.length := by omega
    rw [sum, Nat.add_mod_right]
  rw [rejectedBefore, le_length_takeWhile_iff]
  constructor
  · intro all earlier before
    obtain ⟨item, found, rejected⟩ := all (count - 1 - earlier) (by omega)
    have back : count - 1 - (count - 1 - earlier) = earlier := by omega
    rw [place _ (by omega), back] at found
    exact ⟨item, found, by simpa using rejected⟩
  · intro all position inside
    obtain ⟨item, found, rejected⟩ := all (count - 1 - position) (by omega)
    rw [place position inside]
    exact ⟨item, found, by simpa using rejected⟩

/-- An accepted item stops the count. -/
theorem rejectedBefore_lt {index : Nat} (inside : index < items.length)
    (accepted : accept items[index] = true) : rejectedBefore accept items index < items.length := by
  by_contra whole
  rw [Nat.not_lt] at whole
  have reached : (index + items.length) % items.length = index := by
    rw [Nat.add_mod_right, Nat.mod_eq_of_lt inside]
  rw [← reached] at whole
  obtain ⟨item, found, rejected⟩ :=
    (le_rejectedBefore_iff (Nat.le_refl _)).mp whole 0 (Nat.zero_lt_of_lt inside)
  rw [Nat.add_zero, Nat.mod_eq_of_lt inside, List.getElem?_eq_getElem inside,
    Option.some.injEq] at found
  rw [found, rejected] at accepted
  cases accepted

/-- Going up from the ticket, the first accepted item is at the offset. -/
structure FirstAt (accept : α → Bool) (items : List α) (ticket offset : Nat) : Prop where
  inside : offset < items.length
  accepted : ∃ item, items[(ticket + offset) % items.length]? = some item ∧ accept item = true
  rejected : ∀ earlier < offset, ∃ item,
    items[(ticket + earlier) % items.length]? = some item ∧ accept item = false

/-- The scan ends at the index exactly if the ticket is on it or on one of the
rejected items before it. -/
theorem FirstAt.index_iff {ticket offset index : Nat}
    (first : FirstAt accept items ticket offset) (inside : index < items.length)
    (accepted : accept items[index] = true) :
    (ticket + offset) % items.length = index ↔
      ∃ distance ≤ rejectedBefore accept items index,
        (ticket + distance) % items.length = index := by
  constructor
  · intro reached
    refine ⟨offset, ?_, reached⟩
    rw [← reached]
    exact (le_rejectedBefore_iff first.inside.le).mpr first.rejected
  · rintro ⟨distance, near, reached⟩
    have within : distance ≤ items.length :=
      (near.trans_lt (rejectedBefore_lt inside accepted)).le
    rcases Nat.lt_trichotomy offset distance with before | same | after
    · rw [← reached] at near
      obtain ⟨item, found, rejected⟩ := (le_rejectedBefore_iff within).mp near offset before
      obtain ⟨other, atSame, itemAccepted⟩ := first.accepted
      rw [found, Option.some.injEq] at atSame
      rw [← atSame, rejected] at itemAccepted
      cases itemAccepted
    · rw [same, reached]
    · obtain ⟨item, found, rejected⟩ := first.rejected distance after
      rw [reached, List.getElem?_eq_getElem inside, Option.some.injEq] at found
      rw [found, rejected] at accepted
      cases accepted

/-! ## Counts -/

theorem countP_or_disjoint {β : Type} {first second : β → Bool} {tickets : List β}
    (disjoint : ∀ ticket ∈ tickets, first ticket = true → second ticket = false) :
    tickets.countP (fun ticket => first ticket || second ticket) =
      tickets.countP first + tickets.countP second := by
  induction tickets with
  | nil => rfl
  | cons ticket tickets ih =>
      have rest := ih fun other member => disjoint other (List.mem_cons_of_mem ticket member)
      have here := disjoint ticket List.mem_cons_self
      simp only [List.countP_cons, rest]
      cases firstHolds : first ticket with
      | false =>
          simp only [Bool.false_or, Bool.false_eq_true, if_false]
          omega
      | true =>
          rw [here firstHolds]
          simp only [Bool.or_false, Bool.false_eq_true, if_false, if_true]
          omega

/-- Whole rounds fall equally often on every index. -/
theorem turns_rounds {length index : Nat} (start rounds : Nat) (inside : index < length) :
    turns length start (length * rounds) index = rounds := by
  have positive : 0 < length := Nat.zero_lt_of_lt inside
  have counted := turns_eq start (length * rounds) inside
  simp only [Nat.count_modEq_card _ positive, Nat.add_mul_mod_self_left,
    Nat.add_mul_div_left _ _ positive] at counted
  omega

/-- The tickets of whole rounds that are less than `width` places before the
index, or on it. -/
theorem countP_within {length index width : Nat} (start rounds : Nat)
    (inside : index < length) (fits : width ≤ length) :
    (List.range (length * rounds)).countP (fun ticket =>
      decide (∃ distance < width, (start + ticket + distance) % length = index)) =
      rounds * width := by
  induction width with
  | zero => simp
  | succ width ih =>
      have split : (fun ticket => decide (∃ distance < width + 1,
          (start + ticket + distance) % length = index)) = fun ticket =>
          decide (∃ distance < width, (start + ticket + distance) % length = index) ||
            decide ((start + ticket + width) % length = index) := by
        funext ticket
        simp only [Nat.exists_lt_succ_right, Bool.decide_or]
      have own : (List.range (length * rounds)).countP (fun ticket =>
          decide ((start + ticket + width) % length = index)) = rounds := by
        have shifted := turns_rounds (start + width) rounds inside
        simpa only [turns, Nat.add_right_comm start width] using shifted
      rw [split, countP_or_disjoint, ih (by omega), own, Nat.mul_succ]
      intro ticket _ near
      simp only [decide_eq_true_eq] at near
      obtain ⟨distance, small, reached⟩ := near
      rw [decide_eq_false_iff_not]
      intro alsoReached
      have congruent : distance ≡ width [MOD length] :=
        Nat.ModEq.add_left_cancel' (start + ticket) (reached.trans alsoReached.symm)
      have same := congruent.eq_of_lt_of_lt (by omega) (by omega)
      omega

/-- In whole rounds, an accepted item gets its own tickets and those of the
rejected items before it. -/
theorem countP_share {start rounds index : Nat} (inside : index < items.length)
    (accepted : accept items[index] = true) :
    (List.range' start (items.length * rounds)).countP (fun ticket =>
      decide (∃ distance ≤ rejectedBefore accept items index,
        (ticket + distance) % items.length = index)) =
      rounds * (1 + rejectedBefore accept items index) := by
  have counted := countP_within start rounds inside (rejectedBefore_lt inside accepted)
  simp only [Nat.succ_eq_add_one, Nat.lt_succ_iff] at counted
  rw [List.range'_eq_map_range, List.countP_map, Nat.add_comm 1, ← counted]
  rfl

theorem rejectedBefore_eq_zero (all : ∀ item ∈ items, accept item = true) (index : Nat) :
    rejectedBefore accept items index = 0 := by
  have allRotated : ∀ item ∈ (items.rotate index).reverse, accept item = true := by
    intro item member
    rw [List.mem_reverse, List.mem_rotate] at member
    exact all item member
  rw [rejectedBefore]
  cases rotated : (items.rotate index).reverse with
  | nil => rfl
  | cons first others =>
      have kept := allRotated first (by rw [rotated]; exact List.mem_cons_self)
      simp [kept]

/-! ## Tickets -/

/-- The tickets that a counter hands out, from the first one on. -/
def handedOut (wrap first count : Nat) : List Nat :=
  (List.range count).map fun number => (first + number) % wrap

theorem handedOut_succ (wrap first count : Nat) :
    handedOut wrap first (count + 1) = handedOut wrap first count ++ [(first + count) % wrap] := by
  simp [handedOut, List.range_succ]

theorem count_handedOut (wrap first count ticket : Nat) :
    (handedOut wrap first count).count ticket = turns wrap first count ticket := by
  rw [handedOut, List.count, List.countP_map, turns]
  apply List.countP_congr
  intro number _
  simp

def inWindow (start width ticket : Nat) : Bool :=
  decide (start ≤ ticket ∧ ticket < start + width)

/-- As many draws from a window as there are tickets in it draw each of them
once, however often the counter has wrapped. -/
theorem window_perm {wrap first count start width : Nat} (fits : start + width ≤ wrap)
    (drawn : ((handedOut wrap first count).filter (inWindow start width)).length = width) :
    ((handedOut wrap first count).filter (inWindow start width)).Perm
      (List.range' start width) := by
  let window := (handedOut wrap first count).filter (inWindow start width)
  have memWindow : ∀ ticket, inWindow start width ticket = true ↔
      ticket ∈ List.range' start width := by
    intro ticket
    rw [List.mem_range'_1, inWindow, decide_eq_true_eq]
  have sameLength : window.length = (List.range' start width).length := by
    rw [drawn, List.length_range']
  by_cases every : ∀ ticket ∈ List.range' start width, ticket ∈ window
  · have covered : (List.range' start width).Subperm window :=
      List.subperm_of_subset List.nodup_range' every
    exact (covered.perm_of_length_le sameLength.le).symm
  · -- a ticket that was not drawn: the others were drawn at most once
    simp only [not_forall] at every
    obtain ⟨missing, inside, absent⟩ := every
    have missed : (handedOut wrap first count).count missing = 0 := by
      rw [List.count_eq_zero]
      intro member
      exact absent (List.mem_filter.mpr ⟨member, (memWindow missing).mpr inside⟩)
    have distinct : window.Nodup := by
      rw [List.nodup_iff_count_le_one]
      intro ticket
      by_cases counted : ticket ∈ window
      · have accepted := (memWindow ticket).mp (List.mem_filter.mp counted).2
        rw [List.mem_range'_1] at accepted inside
        have balanced : turns wrap first count ticket ≤ turns wrap first count missing + 1 :=
          turns_balanced first count (by omega) (by omega)
        rw [← count_handedOut, ← count_handedOut, missed] at balanced
        exact (List.filter_sublist.count_le ticket).trans balanced
      · rw [List.count_eq_zero.mpr counted]
        exact Nat.zero_le 1
    have within : ∀ ticket ∈ window, ticket ∈ List.range' start width := by
      intro ticket member
      exact (memWindow ticket).mp (List.mem_filter.mp member).2
    exact (List.subperm_of_subset distinct within).perm_of_length_le sameLength.ge

end Support
