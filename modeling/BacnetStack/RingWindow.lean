import Mathlib.Data.List.Basic
import Mathlib.Data.List.Count
import Mathlib.Data.List.Nodup

/-!
# The last items in a ring

A growing list of items of which a ring of limited size holds the last ones:
item number `m` is in the slot `m` modulo the size, until another item takes
that slot.
-/

namespace RingWindow

variable {α : Type} {size : Nat} {items : List α} {slots : List (Option α)}

/-- The last `size` items, oldest first. -/
def recent
    (size : Nat)
    (items : List α) : List α :=
  items.drop (items.length - size)

/-- Every one of the last items is in its slot; slots never used are empty. -/
structure IsRing
    (size : Nat)
    (items : List α)
    (slots : List (Option α)) : Prop where
  length : slots.length = size
  filled :
    ∀ number item, items[number]? = some item →
      items.length ≤ number + size →
        slots[number % size]? = some (some item)
  unfilled :
    ∀ slot, items.length ≤ slot → slot < size → slots[slot]? = some none

/-- A ring that was never used. -/
theorem isRing_nil
    (size : Nat) :
    IsRing size ([] : List α) (List.replicate size none) where
  length := List.length_replicate
  filled := nofun
  unfilled slot _ isSlot := by
    rw [List.getElem?_replicate, if_pos isSlot]

theorem mem_recent_iff
    {item : α} :
    item ∈ recent size items ↔
      ∃ number : Nat, items[number]? = some item ∧
        items.length ≤ number + size := by
  rw [recent, List.mem_iff_getElem?]
  constructor
  · rintro ⟨offset, isItem⟩
    rw [List.getElem?_drop] at isItem
    exact ⟨items.length - size + offset, isItem, by omega⟩
  · rintro ⟨number, isItem, isRecent⟩
    refine ⟨number - (items.length - size), ?_⟩
    rw [List.getElem?_drop, Nat.add_sub_cancel' (by omega)]
    exact isItem

/-- Items of a window differ where the window has no duplicates. -/
theorem number_unique
    (distinct : (recent size items).Nodup)
    {first second : Nat}
    {item : α}
    (isFirst : items[first]? = some item)
    (firstRecent : items.length ≤ first + size)
    (isSecond : items[second]? = some item)
    (secondRecent : items.length ≤ second + size) :
    first = second := by
  obtain ⟨firstBound, _⟩ := List.getElem?_eq_some_iff.mp isFirst
  have inWindow {number : Nat} (isItem : items[number]? = some item)
      (isRecent : items.length ≤ number + size) :
      (recent size items)[number - (items.length - size)]? = some item := by
    rw [recent, List.getElem?_drop, Nat.add_sub_cancel' (by omega)]
    exact isItem
  have bound :
      first - (items.length - size) < (recent size items).length := by
    rw [recent, List.length_drop]
    omega
  have same :=
    (List.getElem?_inj bound distinct).mp
      ((inWindow isFirst firstRecent).trans
        (inWindow isSecond secondRecent).symm)
  omega

/-- A window without a new item, followed by it, contains the new window. -/
theorem recent_append_sublist
    (size : Nat)
    (items : List α)
    (item : α) :
    (recent size (items ++ [item])).Sublist (recent size items ++ [item]) := by
  have longer :
      recent size items ++ [item] =
        (items ++ [item]).drop (items.length - size) := by
    rw [recent, List.drop_append_of_le_length (by omega)]
  rw [longer, recent, List.length_append, List.length_singleton]
  exact List.drop_sublist_drop_left _ (by omega)

/-- Inserting an item that is not there keeps the window distinct. -/
theorem nodup_recent_append
    (distinct : (recent size items).Nodup)
    {item : α}
    (absent : item ∉ recent size items) :
    (recent size (items ++ [item])).Nodup := by
  refine (recent_append_sublist size items item).nodup ?_
  rw [List.nodup_append]
  refine ⟨distinct, List.nodup_singleton item, ?_⟩
  rintro other isOther _ isItem rfl
  rw [List.mem_singleton] at isItem
  exact absent (isItem ▸ isOther)

/-- Since its last item, the ring was not filled past a slot again. -/
theorem exists_recent_number
    {slot length : Nat}
    (isSlot : slot < size)
    (used : slot < length) :
    ∃ number, number < length ∧ number % size = slot ∧
      length ≤ number + size := by
  have turns := Nat.mod_add_div (length - 1 - slot) size
  have fewer : (length - 1 - slot) % size < size := Nat.mod_lt _ (by omega)
  refine ⟨slot + size * ((length - 1 - slot) / size), by omega, ?_,
    by omega⟩
  rw [Nat.add_mul_mod_self_left, Nat.mod_eq_of_lt isSlot]

namespace IsRing

/-- A slot that was used holds the last item that was put into it. -/
theorem exists_item
    (ring : IsRing size items slots)
    {slot : Nat}
    (isSlot : slot < size)
    (used : slot < items.length) :
    ∃ number item, number % size = slot ∧ items[number]? = some item ∧
      items.length ≤ number + size ∧ slots[slot]? = some (some item) := by
  obtain ⟨number, isNumber, rfl, isRecent⟩ :=
    exists_recent_number isSlot used
  have isItem := List.getElem?_eq_getElem isNumber
  exact ⟨number, items[number], rfl, isItem, isRecent,
    ring.filled _ _ isItem isRecent⟩

/-- The number of the item that a slot holds. -/
theorem exists_number
    (ring : IsRing size items slots)
    {slot : Nat}
    {item : α}
    (held : slots[slot]? = some (some item)) :
    ∃ number, number % size = slot ∧ items[number]? = some item ∧
      items.length ≤ number + size := by
  obtain ⟨isSlot, _⟩ := List.getElem?_eq_some_iff.mp held
  rw [ring.length] at isSlot
  by_cases used : slot < items.length
  · obtain ⟨number, other, inSlot, isItem, isRecent, there⟩ :=
      ring.exists_item isSlot used
    rw [there] at held
    cases held
    exact ⟨number, inSlot, isItem, isRecent⟩
  · rw [ring.unfilled slot (by omega) isSlot] at held
    cases held

/-- The items of the ring are the last ones. -/
theorem mem_iff
    (ring : IsRing size items slots)
    {item : α} :
    some item ∈ slots ↔ item ∈ recent size items := by
  rw [mem_recent_iff, List.mem_iff_getElem?]
  constructor
  · rintro ⟨slot, held⟩
    obtain ⟨number, _, isItem, isRecent⟩ := ring.exists_number held
    exact ⟨number, isItem, isRecent⟩
  · rintro ⟨number, isItem, isRecent⟩
    exact ⟨number % size, ring.filled number item isItem isRecent⟩

/-- No two slots hold the same item where the last ones are distinct. -/
theorem slot_unique
    (ring : IsRing size items slots)
    (distinct : (recent size items).Nodup)
    {first second : Nat}
    {item : α}
    (isFirst : slots[first]? = some (some item))
    (isSecond : slots[second]? = some (some item)) :
    first = second := by
  obtain ⟨one, rfl, isOne, oneRecent⟩ := ring.exists_number isFirst
  obtain ⟨two, rfl, isTwo, twoRecent⟩ := ring.exists_number isSecond
  rw [number_unique distinct isOne oneRecent isTwo twoRecent]

/-- As many slots are used as items were put in, until all are used. -/
theorem countP_isSome
    (ring : IsRing size items slots) :
    slots.countP Option.isSome = min items.length size := by
  have used :
      slots.map Option.isSome =
        (List.range size).map fun slot => decide (slot < items.length) := by
    refine List.ext_getElem?' fun slot isSlot => ?_
    rw [List.length_map, List.length_map, List.length_range, ring.length,
      Nat.max_self] at isSlot
    rw [List.getElem?_map, List.getElem?_map, List.getElem?_range isSlot]
    by_cases used : slot < items.length
    · obtain ⟨_, _, _, _, _, held⟩ := ring.exists_item isSlot used
      rw [held, Option.map_some, Option.map_some, decide_eq_true used]
      rfl
    · rw [ring.unfilled slot (by omega) isSlot, Option.map_some,
        Option.map_some, decide_eq_false used]
      rfl
  have counted (length : Nat) :
      (List.range length).countP (fun slot => decide (slot < items.length)) =
        min items.length length := by
    induction length with
    | zero => rw [List.range_zero, List.countP_nil, Nat.min_zero]
    | succ length inductionHypothesis =>
        rw [List.range_succ, List.countP_append, inductionHypothesis,
          List.countP_singleton]
        split <;> rename_i isUsed <;>
          simp only [decide_eq_true_eq] at isUsed <;> omega
  have mapped := congrArg (List.countP id) used
  rw [List.countP_map, List.countP_map] at mapped
  exact mapped.trans (counted size)

/-- Another item takes the slot of the oldest one of a full ring. -/
theorem insert
    (ring : IsRing size items slots)
    (positive : 0 < size)
    (item : α) :
    IsRing size (items ++ [item])
      (slots.set (items.length % size) (some item)) where
  length := by rw [List.length_set, ring.length]
  filled number other isItem isRecent := by
    rw [List.length_append, List.length_singleton] at isRecent
    have inRing : items.length % size < slots.length := by
      rw [ring.length]
      exact Nat.mod_lt _ positive
    by_cases last : number = items.length
    · subst last
      rw [List.getElem?_concat_length] at isItem
      rw [List.getElem?_set_self inRing, isItem]
    · obtain ⟨bound, _⟩ := List.getElem?_eq_some_iff.mp isItem
      rw [List.length_append, List.length_singleton] at bound
      rw [List.getElem?_append_left (by omega)] at isItem
      have apart : items.length % size ≠ number % size := fun same => by
        have divides := Nat.sub_mod_eq_zero_of_mod_eq same
        have turn :=
          Nat.le_of_dvd (by omega) (Nat.dvd_of_mod_eq_zero divides)
        omega
      rw [List.getElem?_set_ne apart]
      exact ring.filled number other isItem (by omega)
  unfilled slot unused isSlot := by
    rw [List.length_append, List.length_singleton] at unused
    rw [Nat.mod_eq_of_lt (by omega), List.getElem?_set_ne (by omega)]
    exact ring.unfilled slot (by omega) isSlot

end IsRing

end RingWindow
