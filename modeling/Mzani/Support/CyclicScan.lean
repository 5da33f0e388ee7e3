import Mathlib.Data.Int.CardIntervalMod

/-!
# Cyclic scans

The first accepted item of a list, starting at a ticket and going round once.
Tickets are counted modulo `wrap`, as machine counters are.
-/

namespace Support

variable {α : Type}

/-- `for offset in 0..len`, the item at `(start + offset) % len` if accepted. -/
def cyclicFind (wrap : Nat) (accept : α → Bool) (items : List α) (start : Nat) :
    Option α :=
  (List.range items.length).findSome? fun offset =>
    (items[(start + offset) % wrap % items.length]?).filter accept

theorem cyclicFind_some {wrap start : Nat} {accept : α → Bool} {items : List α}
    {item : α} (found : cyclicFind wrap accept items start = some item) :
    item ∈ items ∧ accept item = true := by
  obtain ⟨offset, _, atOffset⟩ := List.exists_of_findSome?_eq_some found
  obtain ⟨atIndex, accepted⟩ := Option.filter_eq_some_iff.mp atOffset
  exact ⟨List.mem_of_getElem? atIndex, accepted⟩

/-- While tickets do not wrap, a round passes every item. -/
theorem exists_offset (start : Nat) {length index : Nat} (inside : index < length) :
    ∃ offset < length, (start + offset) % length = index := by
  have positive : 0 < length := Nat.zero_lt_of_lt inside
  have below := Nat.mod_lt start positive
  refine ⟨(index + (length - start % length)) % length, Nat.mod_lt _ positive, ?_⟩
  rw [Nat.add_mod_mod, ← Nat.mod_add_mod]
  have whole : start % length + (index + (length - start % length)) = index + length := by
    omega
  rw [whole, Nat.add_mod_right, Nat.mod_eq_of_lt inside]

theorem isSome_cyclicFind {wrap start : Nat} {accept : α → Bool} {items : List α}
    {item : α} (member : item ∈ items) (accepted : accept item = true)
    (noWrap : start + items.length ≤ wrap) :
    (cyclicFind wrap accept items start).isSome := by
  obtain ⟨index, inside, rfl⟩ := List.mem_iff_getElem.mp member
  obtain ⟨offset, offsetInside, reached⟩ := exists_offset start inside
  rw [cyclicFind, List.findSome?_isSome_iff]
  refine ⟨offset, List.mem_range.mpr offsetInside, ?_⟩
  have inRange : start + offset < wrap := by omega
  rw [Nat.mod_eq_of_lt inRange, reached, List.getElem?_eq_getElem inside]
  simp [accepted]

/-- If the number of items divides the wrap, wrapping does no harm. -/
theorem isSome_cyclicFind_of_dvd {wrap : Nat} (start : Nat) {accept : α → Bool}
    {items : List α} {item : α} (member : item ∈ items) (accepted : accept item = true)
    (divides : items.length ∣ wrap) : (cyclicFind wrap accept items start).isSome := by
  obtain ⟨index, inside, rfl⟩ := List.mem_iff_getElem.mp member
  obtain ⟨offset, offsetInside, reached⟩ := exists_offset start inside
  rw [cyclicFind, List.findSome?_isSome_iff]
  refine ⟨offset, List.mem_range.mpr offsetInside, ?_⟩
  rw [Nat.mod_mod_of_dvd _ divides, reached, List.getElem?_eq_getElem inside]
  simp [accepted]

theorem cyclicFind_here {wrap start : Nat} {accept : α → Bool} {items : List α}
    {item : α} (here : items[start % items.length]? = some item)
    (accepted : accept item = true) (noWrap : start < wrap) :
    cyclicFind wrap accept items start = some item := by
  have positive : 0 < items.length := by
    cases items with
    | nil => simp at here
    | cons head tail => simp
  obtain ⟨others, range⟩ : ∃ others, List.range items.length = 0 :: others := by
    obtain ⟨length, same⟩ := Nat.exists_eq_succ_of_ne_zero positive.ne'
    exact ⟨_, by rw [same, List.range_succ_eq_map]⟩
  have taken : (some item).filter accept = some item := by simp [accepted]
  rw [cyclicFind, range, List.findSome?_cons, Nat.add_zero, Nat.mod_eq_of_lt noWrap, here,
    taken]

/-- A rejected item is passed over. -/
theorem cyclicFind_next {wrap start : Nat} {accept : α → Bool} {items : List α}
    {item next : α} (here : items[start % items.length]? = some item)
    (rejected : accept item = false)
    (there : items[(start + 1) % items.length]? = some next)
    (accepted : accept next = true) (noWrap : start + 1 < wrap) :
    cyclicFind wrap accept items start = some next := by
  have many : 2 ≤ items.length := by
    by_contra few
    obtain ⟨index, _, rfl⟩ := List.mem_iff_getElem.mp (List.mem_of_getElem? here)
    have one : items.length = 1 := by omega
    simp only [one, Nat.mod_one] at here there
    rw [here] at there
    obtain rfl := Option.some.inj there
    simp [rejected] at accepted
  obtain ⟨others, range⟩ : ∃ others, List.range items.length = 0 :: 1 :: others := by
    obtain ⟨length, same⟩ := Nat.exists_eq_add_of_le' many
    exact ⟨_, by rw [same, List.range_succ_eq_map, List.range_succ_eq_map]; rfl⟩
  have inRange : start < wrap := Nat.lt_of_succ_lt noWrap
  have skipped : (some item).filter accept = none := by simp [rejected]
  have taken : (some next).filter accept = some next := by simp [accepted]
  rw [cyclicFind, range, List.findSome?_cons, List.findSome?_cons, Nat.add_zero,
    Nat.mod_eq_of_lt inRange, here, skipped, Nat.mod_eq_of_lt noWrap, there, taken]

/-! ## The offsets of a scan -/

section

variable {β γ : Type}

/-- The items up to the first one with the property, and that one. -/
def upTo (stops : β → Bool) : List β → List β
  | [] => []
  | item :: items => item :: if stops item = true then [] else upTo stops items

theorem upTo_isPrefix (stops : β → Bool) (items : List β) : upTo stops items <+: items := by
  induction items with
  | nil => exact List.nil_prefix
  | cons item items ih =>
      rw [upTo, List.cons_prefix_cons]
      constructor
      · rfl
      · split
        · exact List.nil_prefix
        · exact ih

theorem upTo_append {stops : β → Bool} {before : List β}
    (none : ∀ item ∈ before, stops item = false) (after : List β) :
    upTo stops (before ++ after) = before ++ upTo stops after := by
  induction before with
  | nil => rfl
  | cons item before ih =>
      have passed := none item List.mem_cons_self
      rw [List.cons_append, upTo, passed, if_neg Bool.false_ne_true,
        ih fun other member => none other (List.mem_cons_of_mem item member)]
      rfl

theorem upTo_eq_self {stops : β → Bool} {items : List β}
    (none : ∀ item ∈ items, stops item = false) : upTo stops items = items := by
  simpa [upTo] using upTo_append none []

/-- Nothing behind an item with the property is among them. -/
theorem mem_upTo_split {stops : β → Bool} {before after : List β} {stop item : β}
    (stopped : stops stop = true) (member : item ∈ upTo stops (before ++ stop :: after)) :
    item ∈ before ∨ item = stop := by
  induction before with
  | nil =>
      rw [List.nil_append, upTo, if_pos stopped] at member
      exact Or.inr (List.mem_singleton.mp member)
  | cons first before ih =>
      rw [List.cons_append, upTo, List.mem_cons] at member
      rcases member with rfl | later
      · exact Or.inl List.mem_cons_self
      · split at later
        · cases later
        · exact (ih later).imp_left (List.mem_cons_of_mem first)

/-- A search ends at the last of the items that it comes to. -/
theorem findSome?_eq_upTo (search : β → Option γ) (items : List β) :
    items.findSome? search =
      (upTo (fun item => (search item).isSome) items).getLast?.bind search := by
  induction items with
  | nil => rfl
  | cons item items ih =>
      cases here : search item with
      | some result => simp [upTo, here]
      | none =>
          cases later : upTo (fun item => (search item).isSome) items with
          | nil => simp [upTo, here, ih, later]
          | cons next others => simp [upTo, here, ih, later, List.getLast?_cons_cons]

end

theorem range_split {length position : Nat} (inside : position < length) :
    ∃ after, List.range length = List.range position ++ position :: after := by
  obtain ⟨rest, rfl⟩ := Nat.exists_eq_add_of_lt inside
  refine ⟨(List.range rest).map (position + 1 + ·), ?_⟩
  rw [Nat.add_right_comm, List.range_add, List.range_succ, List.append_assoc]
  rfl

/-- An offset is reached if the scan stops nowhere before. -/
theorem mem_upTo_range {stops : Nat → Bool} {length offset : Nat} (inside : offset < length)
    (none : ∀ earlier < offset, stops earlier = false) :
    offset ∈ upTo stops (List.range length) := by
  obtain ⟨after, split⟩ := range_split inside
  rw [split, upTo_append fun earlier before => none earlier (List.mem_range.mp before), upTo]
  exact List.mem_append_right _ List.mem_cons_self

theorem le_of_mem_upTo_range {stops : Nat → Bool} {length stop offset : Nat}
    (stopped : stops stop = true) (member : offset ∈ upTo stops (List.range length)) :
    offset ≤ stop := by
  by_cases inside : stop < length
  · obtain ⟨after, split⟩ := range_split inside
    rw [split] at member
    rcases mem_upTo_split stopped member with before | rfl
    · exact (List.mem_range.mp before).le
    · exact Nat.le_refl offset
  · have below := List.mem_range.mp ((upTo_isPrefix stops _).subset member)
    omega

/-- The index of a ticket. -/
def scanIndex (wrap length start offset : Nat) : Nat :=
  (start + offset) % wrap % length

/-- The offsets that the scan comes to. -/
def scannedOffsets (wrap : Nat) (accept : α → Bool) (items : List α) (start : Nat) :
    List Nat :=
  upTo (fun offset => (items[scanIndex wrap items.length start offset]?).any accept)
    (List.range items.length)

/-- The item found is the first accepted one, going round from the ticket. -/
theorem cyclicFind_eq_some_iff {wrap start : Nat} {accept : α → Bool} {items : List α}
    {item : α} :
    cyclicFind wrap accept items start = some item ↔
      ∃ offset < items.length,
        items[scanIndex wrap items.length start offset]? = some item ∧ accept item = true ∧
          ∀ earlier < offset,
            (items[scanIndex wrap items.length start earlier]?).any accept = false := by
  rw [cyclicFind, List.findSome?_eq_some_iff]
  constructor
  · rintro ⟨before, offset, after, split, found, none⟩
    have position := congrArg (·[before.length]?) split
    have initial := congrArg (List.take before.length) split
    have inside : before.length < items.length := by
      have length := congrArg List.length split
      simp only [List.length_range, List.length_append, List.length_cons] at length
      omega
    simp only [List.getElem?_range inside, List.getElem?_append_right (Nat.le_refl _),
      Nat.sub_self, List.getElem?_cons_zero, Option.some.injEq] at position
    rw [List.take_range, List.take_left, Nat.min_eq_left inside.le, position] at initial
    obtain ⟨atOffset, accepted⟩ := Option.filter_eq_some_iff.mp found
    refine ⟨offset, position ▸ inside, atOffset, accepted, fun earlier isBefore => ?_⟩
    rw [← Option.isSome_filter, Option.isSome_eq_false_iff, Option.isNone_iff_eq_none]
    apply none
    rw [← initial]
    exact List.mem_range.mpr isBefore
  · rintro ⟨offset, inside, atOffset, accepted, none⟩
    obtain ⟨after, split⟩ := range_split inside
    refine ⟨_, offset, after, split, ?_, fun earlier isBefore => ?_⟩
    · exact Option.filter_eq_some_iff.mpr ⟨atOffset, accepted⟩
    · rw [← Option.isNone_iff_eq_none, ← Option.isSome_eq_false_iff, Option.isSome_filter]
      exact none earlier (List.mem_range.mp isBefore)

theorem cyclicFind_eq_scanned (wrap : Nat) (accept : α → Bool) (items : List α)
    (start : Nat) :
    cyclicFind wrap accept items start =
      (scannedOffsets wrap accept items start).getLast?.bind fun offset =>
        (items[scanIndex wrap items.length start offset]?).filter accept := by
  have sameStops : (fun offset => (items[scanIndex wrap items.length start offset]?).any
      accept) = fun offset =>
        ((items[scanIndex wrap items.length start offset]?).filter accept).isSome := by
    funext offset
    rw [Option.isSome_filter]
  rw [scannedOffsets, sameStops]
  exact findSome?_eq_upTo _ _

theorem scanIndex_of_lt {wrap length start offset : Nat} (noWrap : start + offset < wrap) :
    scanIndex wrap length start offset = (start + offset) % length := by
  rw [scanIndex, Nat.mod_eq_of_lt noWrap]

theorem lt_of_mem_scannedOffsets {wrap start offset : Nat} {accept : α → Bool}
    {items : List α} (member : offset ∈ scannedOffsets wrap accept items start) :
    offset < items.length :=
  List.mem_range.mp ((upTo_isPrefix _ _).subset member)

/-- A scan that finds nothing comes to every offset. -/
theorem scannedOffsets_of_none {wrap start : Nat} {accept : α → Bool} {items : List α}
    (failed : cyclicFind wrap accept items start = none) :
    scannedOffsets wrap accept items start = List.range items.length := by
  rw [cyclicFind, List.findSome?_eq_none_iff] at failed
  apply upTo_eq_self
  intro offset inside
  rw [← Option.isSome_filter, Option.isSome_eq_false_iff, Option.isNone_iff_eq_none]
  exact failed offset inside

/-- Without a wrap, no item is passed twice. -/
theorem nodup_scanned {wrap start : Nat} {accept : α → Bool} {items : List α}
    (noWrap : ∀ offset ∈ scannedOffsets wrap accept items start, start + offset < wrap) :
    ((scannedOffsets wrap accept items start).map
      (scanIndex wrap items.length start)).Nodup := by
  have distinct : (scannedOffsets wrap accept items start).Nodup :=
    List.nodup_range.sublist (upTo_isPrefix _ _).sublist
  apply distinct.map_on
  intro first firstMember second secondMember same
  rw [scanIndex_of_lt (noWrap first firstMember),
    scanIndex_of_lt (noWrap second secondMember)] at same
  have congruent : first ≡ second [MOD items.length] := Nat.ModEq.add_left_cancel' start same
  exact congruent.eq_of_lt_of_lt (lt_of_mem_scannedOffsets firstMember)
    (lt_of_mem_scannedOffsets secondMember)

/-- A scan stays below the wrap exactly if a whole round does, or an item is
accepted before. -/
theorem scanned_noWrap_iff {wrap start : Nat} (accept : α → Bool) (items : List α)
    (below : start < wrap) :
    (∀ offset ∈ scannedOffsets wrap accept items start, start + offset < wrap) ↔
      start + items.length ≤ wrap ∨
        ∃ ticket, start ≤ ticket ∧ ticket < wrap ∧
          ∃ item, items[ticket % items.length]? = some item ∧ accept item = true := by
  constructor
  · intro noWrap
    by_contra neither
    simp only [not_or, not_exists, not_and, Nat.not_le] at neither
    obtain ⟨short, rejected⟩ := neither
    have reached : wrap - start ∈ scannedOffsets wrap accept items start := by
      apply mem_upTo_range
      · omega
      · intro earlier before
        have inRange : start + earlier < wrap := by omega
        rw [scanIndex_of_lt inRange]
        cases here : items[(start + earlier) % items.length]? with
        | none => rfl
        | some item =>
            have refused := rejected (start + earlier) (Nat.le_add_right _ _) inRange item here
            simpa using refused
    have wrapped := noWrap _ reached
    omega
  · rintro (round | ⟨ticket, after, before, item, here, accepted⟩) offset member
    · have inside := lt_of_mem_scannedOffsets member
      omega
    · have stops : (items[scanIndex wrap items.length start (ticket - start)]?).any accept =
          true := by
        have sum : start + (ticket - start) = ticket := by omega
        rw [scanIndex_of_lt (by omega), sum, here]
        simpa using accepted
      have early := le_of_mem_upTo_range stops member
      omega

/-! ## Turns -/

/-- How many of `count` consecutive tickets fall on an index. -/
def turns (length start count index : Nat) : Nat :=
  (List.range count).countP fun ticket => (start + ticket) % length = index

theorem turns_eq {length index : Nat} (start count : Nat) (inside : index < length) :
    turns length start count index + Nat.count (· ≡ index [MOD length]) start =
      Nat.count (· ≡ index [MOD length]) (start + count) := by
  rw [Nat.count_add, Nat.add_comm]
  congr 1
  rw [turns, Nat.count]
  apply List.countP_congr
  intro ticket _
  simp [Nat.ModEq, Nat.mod_eq_of_lt inside]

/-- Consecutive tickets fall on any two indices nearly equally often. -/
theorem turns_balanced {length first second : Nat} (start count : Nat)
    (firstInside : first < length) (secondInside : second < length) :
    turns length start count first ≤ turns length start count second + 1 := by
  have positive : 0 < length := Nat.zero_lt_of_lt firstInside
  have firstTurns := turns_eq start count firstInside
  have secondTurns := turns_eq start count secondInside
  simp only [Nat.count_modEq_card _ positive, Nat.mod_eq_of_lt firstInside,
    Nat.mod_eq_of_lt secondInside] at firstTurns secondTurns
  split at firstTurns <;> split at firstTurns <;> split at secondTurns <;>
    split at secondTurns <;> omega

end Support
