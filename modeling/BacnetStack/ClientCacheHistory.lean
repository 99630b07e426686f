import BacnetStack.ClientPropertyCache
import BacnetStack.RingWindow
import Mathlib.Data.List.Induction

namespace BacnetStack

/-!
# What the property cache remembers

The cache is a ring of the properties that were inserted last, each with the
value of the last attempt that succeeded since its insertion.
-/

open RingWindow

/-- An attempt to read a property, as the cache is told about it. -/
structure CacheAttempt where
  request : BacnetPropertyRequest
  status : BacnetPropertyReadStatus
  value : Option BacnetValue
  attemptAtMs : UInt32
  errorClass : UInt32 := 0
  errorCode : UInt32 := 0
  deriving Repr, DecidableEq

/-- The value of an attempt that succeeded. -/
def CacheAttempt.success? (attempt : CacheAttempt) : Option BacnetValue :=
  if attempt.status = .ack then attempt.value else none

namespace PropertyCache

/-- The cache after an attempt. -/
def afterAttempt
    (cache : PropertyCache)
    (attempt : CacheAttempt) : PropertyCache :=
  cache.update attempt.request attempt.status attempt.value
    attempt.attemptAtMs attempt.errorClass attempt.errorCode

/-- The cache after one attempt after the other. -/
def replay
    (cache : PropertyCache)
    (attempts : List CacheAttempt) : PropertyCache :=
  attempts.foldl afterAttempt cache

/-- The properties in the slots of the cache. -/
def keys (cache : PropertyCache) : List (Option BacnetPropertyRequest) :=
  cache.slots.map (Option.map BacnetCachedProperty.request)

end PropertyCache

/--
All insertions, oldest first, and for each property its last success since
it was inserted.
-/
structure CacheRecord where
  insertions : List BacnetPropertyRequest := []
  lastSuccess : BacnetPropertyRequest → Option BacnetValue := fun _ => none

/--
A property that is not among the last insertions is inserted; its successes
are forgotten.
-/
def CacheRecord.after
    (size : Nat)
    (record : CacheRecord)
    (attempt : CacheAttempt) : CacheRecord :=
  if attempt.request ∈ recent size record.insertions then
    { record with
      lastSuccess :=
        Function.update record.lastSuccess attempt.request
          (attempt.success?.or (record.lastSuccess attempt.request)) }
  else
    { insertions := record.insertions ++ [attempt.request]
      lastSuccess :=
        Function.update record.lastSuccess attempt.request
          attempt.success? }

/-- The record of one attempt after the other. -/
def CacheRecord.ofAttempts
    (size : Nat)
    (attempts : List CacheAttempt) : CacheRecord :=
  attempts.foldl (CacheRecord.after size) {}

namespace BacnetCachedProperty

/-- An entry has a value where an attempt succeeded, and that value. -/
structure Keeps
    (entry : BacnetCachedProperty)
    (success : Option BacnetValue) : Prop where
  hasValue : entry.hasValue = success.isSome
  value : ∀ kept, success = some kept → entry.value = kept

variable (entry : BacnetCachedProperty) (attempt : CacheAttempt)

/-- The entry after an attempt. -/
def afterAttempt : BacnetCachedProperty :=
  entry.attempted attempt.status attempt.value attempt.attemptAtMs
    attempt.errorClass attempt.errorCode

@[simp] theorem request_afterAttempt :
    (entry.afterAttempt attempt).request = entry.request := by
  unfold afterAttempt attempted
  cases attempt.value with
  | none => rfl
  | some value =>
      dsimp only
      split
      · rfl
      split <;> rfl

variable {entry attempt}

/-- A failed attempt keeps the value of an earlier success. -/
theorem Keeps.afterAttempt
    {success : Option BacnetValue}
    (keeps : entry.Keeps success)
    (attempt : CacheAttempt) :
    (entry.afterAttempt attempt).Keeps (attempt.success?.or success) := by
  obtain ⟨hasValue, value⟩ := keeps
  unfold BacnetCachedProperty.afterAttempt attempted CacheAttempt.success?
  cases attempt.value with
  | none =>
      rw [ite_self, Option.none_or]
      exact ⟨hasValue, value⟩
  | some received =>
      dsimp only
      by_cases succeeded : attempt.status = .ack
      · rw [if_pos succeeded, if_pos succeeded, Option.some_or]
        exact ⟨rfl, fun _ => Option.some.inj⟩
      · rw [if_neg succeeded, if_neg succeeded, Option.none_or]
        cases success with
        | none =>
            rw [hasValue]
            exact ⟨rfl, nofun⟩
        | some kept =>
            rw [hasValue]
            exact ⟨rfl, value⟩

/-- A property that was just inserted has no value. -/
theorem keeps_none
    (request : BacnetPropertyRequest) :
    ({ request := request } : BacnetCachedProperty).Keeps none :=
  ⟨rfl, nofun⟩

end BacnetCachedProperty

namespace PropertyCache

/-- The slots are a ring of the last insertions with their values. -/
structure Follows
    (cache : PropertyCache)
    (size : Nat)
    (record : CacheRecord) : Prop where
  ring : IsRing size record.insertions cache.keys
  count : cache.count = min record.insertions.length size
  next : cache.nextSlot = record.insertions.length % size
  distinct : (recent size record.insertions).Nodup
  keeps :
    ∀ (slot : Nat) (entry : BacnetCachedProperty),
      cache.slots[slot]? = some (some entry) →
        entry.Keeps (record.lastSuccess entry.request)

theorem follows_ofSize
    (size : Nat) :
    (ofSize size).Follows size {} where
  ring := by
    rw [keys, ofSize, List.map_replicate]
    exact isRing_nil size
  count := (Nat.zero_min size).symm
  next := (Nat.zero_mod size).symm
  distinct := by
    rw [recent, List.drop_nil]
    exact List.nodup_nil
  keeps slot entry held := by
    rw [ofSize, List.getElem?_replicate] at held
    split at held <;> cases held

section Slots

variable {cache : PropertyCache} {size : Nat} {record : CacheRecord}
  {request : BacnetPropertyRequest}

theorem getElem?_keys
    {slot : Nat}
    {entry : BacnetCachedProperty}
    (held : cache.slots[slot]? = some (some entry)) :
    cache.keys[slot]? = some (some entry.request) := by
  rw [keys, List.getElem?_map, held]
  rfl

/-- The slot that was found holds the property. -/
theorem held_of_usedSlot?
    {slot : Nat}
    (found : cache.usedSlot? request = some slot) :
    ∃ entry, cache.slots[slot]? = some (some entry) ∧
      entry.request = request := by
  obtain ⟨isSlot, holds, _⟩ := List.findIdx?_eq_some_iff_getElem.mp found
  obtain ⟨entry, held, same⟩ := (Option.any_eq_true _ _).mp holds
  refine ⟨entry, ?_, of_decide_eq_true same⟩
  rw [List.getElem?_eq_getElem isSlot, held]

/-- Where no slot was found, the property is in none. -/
theorem ne_of_usedSlot?_none
    (notFound : cache.usedSlot? request = none)
    {slot : Nat}
    {entry : BacnetCachedProperty}
    (held : cache.slots[slot]? = some (some entry)) :
    entry.request ≠ request := by
  have fails := List.findIdx?_eq_none_iff.mp notFound (some entry)
    (List.mem_of_getElem? held)
  simpa using fails

/-- A property was found where it is among the last insertions. -/
theorem Follows.usedSlot?_isSome_iff
    (follows : cache.Follows size record) :
    (cache.usedSlot? request).isSome = true ↔
      request ∈ recent size record.insertions := by
  rw [← follows.ring.mem_iff]
  constructor
  · intro found
    obtain ⟨slot, found⟩ := Option.isSome_iff_exists.mp found
    obtain ⟨entry, held, rfl⟩ := held_of_usedSlot? found
    exact List.mem_of_getElem? (getElem?_keys held)
  · intro isKey
    obtain ⟨content, isSlot, isKey⟩ := List.mem_map.mp isKey
    obtain ⟨slot, held⟩ := List.mem_iff_getElem?.mp isSlot
    obtain ⟨entry, rfl, same⟩ := Option.map_eq_some_iff.mp isKey
    cases found : cache.usedSlot? request with
    | some _ => rfl
    | none => exact absurd same (ne_of_usedSlot?_none found held)

/-- Two slots with the same property are the same slot. -/
theorem Follows.slot_unique
    (follows : cache.Follows size record)
    {first second : Nat}
    {one two : BacnetCachedProperty}
    (isFirst : cache.slots[first]? = some (some one))
    (isSecond : cache.slots[second]? = some (some two))
    (same : one.request = two.request) :
    first = second := by
  have held := getElem?_keys isFirst
  rw [same] at held
  exact follows.ring.slot_unique follows.distinct held
    (getElem?_keys isSecond)

/-- The next slot is free until every slot was used. -/
theorem Follows.freeSlot?_eq
    (follows : cache.Follows size record)
    (positive : 0 < size) :
    cache.freeSlot? =
      if record.insertions.length < size then
        some record.insertions.length
      else
        none := by
  have length : cache.slots.length = size := by
    have sameLength := follows.ring.length
    rwa [keys, List.length_map] at sameLength
  unfold freeSlot?
  rw [follows.count, length]
  by_cases room : record.insertions.length < size
  · have next : cache.nextSlot = record.insertions.length := by
      rw [follows.next, Nat.mod_eq_of_lt room]
    have unused :=
      follows.ring.unfilled record.insertions.length le_rfl room
    rw [keys, List.getElem?_map, Option.map_eq_some_iff] at unused
    obtain ⟨content, held, isNone⟩ := unused
    obtain rfl := Option.map_eq_none_iff.mp isNone
    obtain ⟨fewer, rfl⟩ : ∃ fewer, size = fewer + 1 :=
      ⟨size - 1, by omega⟩
    rw [if_pos (by omega), if_pos room, List.range_succ_eq_map,
      List.map_cons, List.find?_cons_of_pos, Nat.add_zero, next,
      Nat.mod_eq_of_lt room]
    rw [Nat.add_zero, next, Nat.mod_eq_of_lt room, held]
    rfl
  · rw [if_neg (by omega), if_neg room]

end Slots

section Attempt

variable {cache : PropertyCache} {size : Nat} {record : CacheRecord}
  (follows : cache.Follows size record) (attempt : CacheAttempt)

/-- Another attempt changes one entry, which keeps its property. -/
theorem keys_modify
    (slots : List (Option BacnetCachedProperty))
    (slot : Nat) :
    (slots.modify slot fun entry =>
        entry.map fun entry => entry.afterAttempt attempt).map
        (Option.map BacnetCachedProperty.request) =
      slots.map (Option.map BacnetCachedProperty.request) := by
  refine List.ext_getElem? fun index => ?_
  rw [List.getElem?_map, List.getElem?_map, List.getElem?_modify]
  cases slots[index]? with
  | none => rfl
  | some content =>
      cases content with
      | none => split <;> rfl
      | some entry =>
          split
          · simp
          · rfl

include follows

/-- An attempt to read a property that is there. -/
theorem Follows.afterAttempt_present
    {slot : Nat}
    (found : cache.usedSlot? attempt.request = some slot) :
    (cache.afterAttempt attempt).Follows size
      (record.after size attempt) := by
  obtain ⟨present, held, isPresent⟩ := held_of_usedSlot? found
  have isRecent :=
    follows.usedSlot?_isSome_iff.mp (Option.isSome_iff_exists.mpr ⟨_, found⟩)
  have updated :
      cache.afterAttempt attempt =
        { cache with
          slots := cache.slots.modify slot fun entry =>
            entry.map fun entry => entry.afterAttempt attempt } := by
    unfold PropertyCache.afterAttempt update findOrCreate
    rw [found]
    rfl
  rw [updated, CacheRecord.after, if_pos isRecent]
  constructor
  · rw [keys]
    dsimp only
    rw [keys_modify]
    exact follows.ring
  · exact follows.count
  · exact follows.next
  · exact follows.distinct
  · intro index entry isEntry
    dsimp only at isEntry ⊢
    by_cases here : slot = index
    · subst here
      rw [List.getElem?_modify_eq, held] at isEntry
      obtain rfl := Option.some.inj (Option.some.inj isEntry)
      have kept := (follows.keeps slot present held).afterAttempt attempt
      rw [BacnetCachedProperty.request_afterAttempt, isPresent,
        Function.update_self]
      rw [isPresent] at kept
      exact kept
    · rw [List.getElem?_modify_ne _ _ here] at isEntry
      have other : entry.request ≠ attempt.request := fun same =>
        here (follows.slot_unique held isEntry (isPresent.trans same.symm))
      rw [Function.update_of_ne other]
      exact follows.keeps index entry isEntry

/-- A property that is not there takes the slot of the oldest one. -/
theorem Follows.findOrCreate_absent
    (positive : 0 < size)
    {request : BacnetPropertyRequest}
    (notFound : cache.usedSlot? request = none) :
    cache.findOrCreate request =
      (record.insertions.length % size,
        cache.claim (record.insertions.length % size)
          (min (record.insertions.length + 1) size) request) := by
  unfold findOrCreate
  rw [notFound, follows.freeSlot?_eq positive]
  dsimp only
  by_cases room : record.insertions.length < size
  · rw [if_pos room, follows.count, Nat.mod_eq_of_lt room,
      Nat.min_eq_left room.le, Nat.min_eq_left room]
  · rw [if_neg room, follows.count, follows.next,
      Nat.min_eq_right (by omega), Nat.min_eq_right (by omega)]

/-- An attempt to read a property that is not there. -/
theorem Follows.afterAttempt_absent
    (positive : 0 < size)
    (notFound : cache.usedSlot? attempt.request = none) :
    (cache.afterAttempt attempt).Follows size
      (record.after size attempt) := by
  have absent : attempt.request ∉ recent size record.insertions := by
    rw [← follows.usedSlot?_isSome_iff, notFound]
    exact Bool.false_ne_true
  have length : cache.slots.length = size := by
    have sameLength := follows.ring.length
    rwa [keys, List.length_map] at sameLength
  have inRing : record.insertions.length % size < cache.slots.length := by
    rw [length]
    exact Nat.mod_lt _ positive
  have updated :
      cache.afterAttempt attempt =
        { cache.claim (record.insertions.length % size)
            (min (record.insertions.length + 1) size) attempt.request with
          slots :=
            (cache.slots.set (record.insertions.length % size)
              (some { request := attempt.request })).modify
              (record.insertions.length % size) fun entry =>
                entry.map fun entry => entry.afterAttempt attempt } := by
    unfold PropertyCache.afterAttempt update
    rw [follows.findOrCreate_absent positive notFound]
    rfl
  rw [updated, CacheRecord.after, if_neg absent]
  constructor
  · rw [keys]
    dsimp only
    rw [keys_modify, List.map_set]
    exact follows.ring.insert positive attempt.request
  · dsimp only [claim]
    rw [List.length_append, List.length_singleton]
  · dsimp only [claim]
    rw [List.length_append, List.length_singleton, length, Nat.mod_add_mod]
  · exact nodup_recent_append follows.distinct absent
  · intro index entry isEntry
    dsimp only at isEntry ⊢
    by_cases here : record.insertions.length % size = index
    · subst here
      rw [List.getElem?_modify_eq, List.getElem?_set_self inRing] at isEntry
      obtain rfl := Option.some.inj (Option.some.inj isEntry)
      rw [BacnetCachedProperty.request_afterAttempt, Function.update_self]
      have kept :=
        (BacnetCachedProperty.keeps_none attempt.request).afterAttempt
          attempt
      rw [Option.or_none] at kept
      exact kept
    · rw [List.getElem?_modify_ne _ _ here, List.getElem?_set_ne here]
        at isEntry
      rw [Function.update_of_ne (ne_of_usedSlot?_none notFound isEntry)]
      exact follows.keeps index entry isEntry

/-- The cache follows the record. -/
theorem Follows.afterAttempt
    (positive : 0 < size) :
    (cache.afterAttempt attempt).Follows size
      (record.after size attempt) := by
  cases found : cache.usedSlot? attempt.request with
  | some slot => exact follows.afterAttempt_present attempt found
  | none => exact follows.afterAttempt_absent attempt positive found

end Attempt

/-- The cache follows the record of its attempts. -/
theorem follows_replay
    {size : Nat}
    (positive : 0 < size)
    (attempts : List CacheAttempt) :
    ((ofSize size).replay attempts).Follows size
      (.ofAttempts size attempts) := by
  induction attempts using List.reverseRecOn with
  | nil => exact follows_ofSize size
  | append_singleton attempts attempt inductionHypothesis =>
      unfold replay CacheRecord.ofAttempts
      rw [List.foldl_append, List.foldl_append]
      exact inductionHypothesis.afterAttempt attempt positive

/--
A cache of limited size holds the properties that were inserted last, one
slot each, and for each the value of its last success.
-/
structure Remembers
    (cache : PropertyCache)
    (size : Nat)
    (record : CacheRecord) : Prop where
  count_le : cache.count ≤ size
  count_eq : cache.count = cache.slots.countP Option.isSome
  distinct :
    ∀ (first second : Nat) (one two : BacnetCachedProperty),
      cache.slots[first]? = some (some one) →
        cache.slots[second]? = some (some two) →
          one.request = two.request → first = second
  recent :
    ∀ request,
      (∃ entry, some entry ∈ cache.slots ∧ entry.request = request) ↔
        request ∈ RingWindow.recent size record.insertions
  kept :
    ∀ entry, some entry ∈ cache.slots →
      ∀ value, record.lastSuccess entry.request = some value →
        entry.hasValue = true ∧ entry.value = value

theorem Follows.remembers
    {cache : PropertyCache}
    {size : Nat}
    {record : CacheRecord}
    (follows : cache.Follows size record) :
    cache.Remembers size record where
  count_le := follows.count ▸ Nat.min_le_right _ _
  count_eq := by
    have used := follows.ring.countP_isSome
    rw [keys, List.countP_map] at used
    rw [follows.count, ← used]
    refine List.countP_congr fun content _ => ?_
    rw [Function.comp_apply, Option.isSome_map]
  distinct _ _ _ _ isFirst isSecond same :=
    follows.slot_unique isFirst isSecond same
  recent request := by
    rw [← follows.ring.mem_iff, keys, List.mem_map]
    constructor
    · rintro ⟨entry, isEntry, rfl⟩
      exact ⟨some entry, isEntry, rfl⟩
    · rintro ⟨content, isContent, isKey⟩
      obtain ⟨entry, rfl, same⟩ := Option.map_eq_some_iff.mp isKey
      exact ⟨entry, isContent, same⟩
  kept entry isEntry value isSuccess := by
    obtain ⟨slot, held⟩ := List.mem_iff_getElem?.mp isEntry
    have keeps := follows.keeps slot entry held
    rw [isSuccess] at keeps
    exact ⟨keeps.hasValue, keeps.value value rfl⟩

end PropertyCache

end BacnetStack
