import Mathlib.Algebra.Ring.Nat
import Mathlib.Data.List.FinRange

/-!
# Tables of a fixed number of slots

A map from keys to values, kept in an array of slots.  As long as no key is
held twice, writing a slot that is free or holds the same key sets the key,
and freeing a slot removes its key.
-/

namespace SlotTable

variable {size : Nat} {Key Value : Type}

/-- What the slots hold. -/
abbrev Table (size : Nat) (Key Value : Type) : Type :=
  Fin size → Option (Key × Value)

/-- Some slot holds the key with this value. -/
def Holds
    (table : Table size Key Value)
    (key : Key)
    (value : Value) : Prop :=
  ∃ index, table index = some (key, value)

/-- No key is held by two slots. -/
def KeysDistinct (table : Table size Key Value) : Prop :=
  ∀ first second entry other,
    table first = some entry →
    table second = some other →
    entry.1 = other.1 →
    first = second

variable {table : Table size Key Value} {index : Fin size}
  {key : Key} {value : Value}

/-- A table without a key is not changed for other keys by setting it. -/
theorem holds_update_some_iff
    (here : ∀ entry, table index = some entry → entry.1 = key)
    (nowhere :
      ∀ other entry,
        table other = some entry → entry.1 = key → other = index)
    {asked : Key}
    {found : Value} :
    Holds (Function.update table index (some (key, value))) asked found ↔
      (asked = key ∧ found = value) ∨
        asked ≠ key ∧ Holds table asked found := by
  constructor
  · rintro ⟨place, held⟩
    by_cases same : place = index
    · rw [same, Function.update_self] at held
      cases held
      exact .inl ⟨rfl, rfl⟩
    · rw [Function.update_of_ne same] at held
      refine .inr ⟨fun isKey => same ?_, place, held⟩
      exact nowhere place _ held isKey
  · rintro (⟨rfl, rfl⟩ | ⟨different, place, held⟩)
    · exact ⟨index, Function.update_self ..⟩
    · refine ⟨place, ?_⟩
      rw [Function.update_of_ne, held]
      rintro rfl
      exact different (here _ held)

/-- Freeing a slot removes the key it holds. -/
theorem holds_update_none_iff
    (distinct : KeysDistinct table)
    (held : table index = some (key, value))
    {asked : Key}
    {found : Value} :
    Holds (Function.update table index none) asked found ↔
      asked ≠ key ∧ Holds table asked found := by
  constructor
  · rintro ⟨place, holds⟩
    by_cases same : place = index
    · rw [same, Function.update_self] at holds
      cases holds
    · rw [Function.update_of_ne same] at holds
      refine ⟨fun isKey => same ?_, place, holds⟩
      exact distinct place index _ _ holds held isKey
  · rintro ⟨different, place, holds⟩
    refine ⟨place, ?_⟩
    rw [Function.update_of_ne, holds]
    rintro rfl
    rw [held] at holds
    cases holds
    exact different rfl

/-- The entries of a table. -/
def entries (table : Table size Key Value) : List (Key × Value) :=
  (List.finRange size).filterMap table

theorem mem_entries_iff :
    (key, value) ∈ entries table ↔ Holds table key value := by
  simp [entries, Holds]

theorem length_entries_le
    (table : Table size Key Value) :
    (entries table).length ≤ size := by
  have bound := List.length_filterMap_le table (List.finRange size)
  rwa [List.length_finRange] at bound

/-- No key is listed twice. -/
theorem nodup_keys_entries
    (distinct : KeysDistinct table) :
    ((entries table).map Prod.fst).Nodup := by
  rw [entries, List.map_filterMap]
  apply (List.nodup_finRange size).filterMap
  intro first second shared isFirst isSecond
  obtain ⟨entry, held, same⟩ := Option.map_eq_some_iff.mp isFirst
  obtain ⟨other, alsoHeld, alsoSame⟩ := Option.map_eq_some_iff.mp isSecond
  exact distinct first second entry other held alsoHeld
    (same.trans alsoSame.symm)

end SlotTable
