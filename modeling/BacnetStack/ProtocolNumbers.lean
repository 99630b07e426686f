import BacnetStack.ProtocolDispatch
import BacnetStack.ProtocolRequestBuild
import BacnetStack.ProtocolReadAck

namespace BacnetStack

/-!
# Numbers and tags, written and read back

The writers put a tag octet with a length in front of the octets of a number,
most significant first.  The readers take the same octets away again and leave
the rest of the packet untouched, so each lemma here describes a reader on
the octets of its writer in front of an arbitrary rest.
-/

open Reader

namespace Reader

variable {α β : Type}

/-- A reader that succeeded is followed by its continuation. -/
theorem run_bind_of_ok
    {reader : Reader α}
    {packet rest : List UInt8}
    {value : α}
    (read : reader.run packet = .ok (value, rest))
    (continuation : α → Reader β) :
    (reader >>= continuation).run packet =
      (continuation value).run rest := by
  rw [StateT.run_bind, read]
  rfl

@[simp] theorem run_next_cons
    (octet : UInt8)
    (rest : List UInt8) :
    next.run (octet :: rest) = .ok (octet, rest) :=
  rfl

@[simp] theorem run_peek_cons
    (octet : UInt8)
    (rest : List UInt8) :
    peek.run (octet :: rest) = .ok (octet, octet :: rest) :=
  rfl

@[simp] theorem run_checkedNext_cons
    (octet : UInt8)
    (rest : List UInt8) :
    checkedNext.run (octet :: rest) = .ok (octet, rest) :=
  rfl

/-- An expected octet is consumed. -/
@[simp] theorem run_expect_cons
    (octet : UInt8)
    (rest : List UInt8) :
    (expect octet).run (octet :: rest) = .ok ((), rest) := by
  have same : (octet == octet) = true := beq_self_eq_true octet
  rw [expect, run_bind_of_ok (run_checkedNext_cons octet rest), same]
  rfl

@[simp] theorem run_skip
    (count : Nat)
    (packet : List UInt8) :
    (skip count).run packet = .ok ((), packet.drop count) :=
  rfl

@[simp] theorem run_atEnd_nil :
    atEnd.run [] = .ok ((), []) :=
  rfl

/-- A check that holds is passed. -/
theorem run_require_bind
    {holds : Bool}
    (passed : holds = true)
    (continuation : Unit → Reader β)
    (packet : List UInt8) :
    (require holds >>= continuation).run packet =
      (continuation ()).run packet := by
  subst passed
  rfl

end Reader

/-- The most significant octet comes first. -/
theorem bigEndianOctets_succ
    (value : UInt32)
    (length : Nat) :
    bigEndianOctets value (length + 1) =
      (value >>> UInt32.ofNat (length * 8)).toUInt8 ::
        bigEndianOctets value length := by
  unfold bigEndianOctets
  rw [List.range_succ_eq_map, List.map_cons, List.map_map]
  congr 1
  apply List.map_congr_left
  intro index _
  change
    (value >>>
      UInt32.ofNat ((length + 1 - (index + 1) - 1) * 8)).toUInt8 = _
  rw [Nat.add_sub_add_right]

/-- Shifting in an octet is one step of a base-256 expansion. -/
theorem toNat_shiftIn
    (value : UInt32)
    (octet : UInt8) :
    ((value <<< 8) ||| octet.toUInt32).toNat =
      (value.toNat * 256 + octet.toNat) % 2 ^ 32 := by
  have low : octet.toNat < 2 ^ 8 := octet.toNat_lt
  have shifted : value.toNat <<< 8 = value.toNat * 256 :=
    Nat.shiftLeft_eq _ _
  have small : octet.toNat = octet.toNat % 2 ^ 32 :=
    (Nat.mod_eq_of_lt (lt_trans low (by decide))).symm
  rw [UInt32.toNat_or, UInt32.toNat_shiftLeft, UInt8.toNat_toUInt32]
  change value.toNat <<< 8 % 2 ^ 32 ||| octet.toNat = _
  rw [small, ← Nat.or_mod_two_pow, ← Nat.shiftLeft_add_eq_or_of_lt low,
    ← small, shifted]

/-- One octet of a number, as a digit of its base-256 expansion. -/
theorem toNat_octet
    (value : UInt32)
    {length : Nat}
    (inside : length < 4) :
    ((value >>> UInt32.ofNat (length * 8)).toUInt8).toNat =
      value.toNat / 256 ^ length % 256 := by
  have shift : (UInt32.ofNat (length * 8)).toNat % 32 = length * 8 := by
    rw [UInt32.toNat_ofNat']
    omega
  rw [UInt32.toNat_toUInt8, UInt32.toNat_shiftRight, shift,
    Nat.shiftRight_eq_div_pow, Nat.mul_comm, Nat.pow_mul]

/-- The lowest digits of a number, the first of them apart. -/
theorem mod_pow_succ
    (value length : Nat) :
    value % 256 ^ (length + 1) =
      value / 256 ^ length % 256 * 256 ^ length + value % 256 ^ length := by
  rw [Nat.pow_succ, Nat.mod_mul, Nat.add_comm, Nat.mul_comm (256 ^ length)]

/-- Reading the octets of a number shifts its lowest digits in. -/
theorem run_bigEndian
    (value : UInt32)
    {length : Nat}
    (short : length ≤ 4)
    (accumulated : UInt32)
    (rest : List UInt8) :
    (bigEndian length accumulated).run
        (bigEndianOctets value length ++ rest) =
      .ok (UInt32.ofNat
        (accumulated.toNat * 256 ^ length + value.toNat % 256 ^ length),
        rest) := by
  induction length generalizing accumulated with
  | zero =>
      have same :
          UInt32.ofNat
              (accumulated.toNat * 256 ^ 0 + value.toNat % 256 ^ 0) =
            accumulated := by
        simp [Nat.mod_one]
      rw [same]
      rfl
  | succ length inductionHypothesis =>
      have inside : length < 4 := short
      rw [bigEndianOctets_succ, List.cons_append, bigEndian,
        run_bind_of_ok (run_next_cons _ _), inductionHypothesis inside.le]
      congr 2
      apply UInt32.toNat_inj.mp
      rw [UInt32.toNat_ofNat', UInt32.toNat_ofNat', toNat_shiftIn,
        toNat_octet value inside, mod_pow_succ, Nat.add_mod,
        Nat.mod_mul_mod, ← Nat.add_mod, Nat.add_mul, Nat.mul_assoc,
        Nat.mul_comm 256, ← Nat.pow_succ, Nat.add_assoc]

/-- The octets of a number that needs no more of them give it back. -/
theorem run_bigEndian_self
    {value : UInt32}
    {length : Nat}
    (short : length ≤ 4)
    (enough : value.toNat < 256 ^ length)
    (rest : List UInt8) :
    (bigEndian length 0).run (bigEndianOctets value length ++ rest) =
      .ok (value, rest) := by
  rw [run_bigEndian value short, Nat.mod_eq_of_lt enough, UInt32.toNat_zero,
    Nat.zero_mul, Nat.zero_add, UInt32.ofNat_toNat]

/-- The three fields of a tag octet. -/
theorem tagOctet_fields :
    ∀ tagNumber low : Fin 16,
      ((UInt8.ofNat tagNumber <<< 4) ||| UInt8.ofNat low) >>> 4 =
          UInt8.ofNat tagNumber ∧
        isContextTag
            ((UInt8.ofNat tagNumber <<< 4) ||| UInt8.ofNat low) =
          decide (8 ≤ low.val) ∧
        (((UInt8.ofNat tagNumber <<< 4) ||| UInt8.ofNat low) &&&
            0x07).toNat = low.val % 8 := by
  decide +kernel

section Tags

variable {tagNumber : UInt8} {length : Nat}

/-- The fields of an application tag with a short length. -/
theorem applicationTag_fields
    (known : tagNumber < 16)
    (short : length < 8) :
    ((tagNumber <<< 4) ||| UInt8.ofNat length) >>> 4 = tagNumber ∧
      isContextTag ((tagNumber <<< 4) ||| UInt8.ofNat length) = false ∧
      (((tagNumber <<< 4) ||| UInt8.ofNat length) &&& 0x07).toNat =
        length := by
  obtain ⟨number, context, low⟩ :=
    tagOctet_fields ⟨tagNumber.toNat, known⟩ ⟨length, by omega⟩
  rw [UInt8.ofNat_toNat] at number context low
  refine ⟨number, context.trans ?_, low.trans (Nat.mod_eq_of_lt short)⟩
  exact decide_eq_false (Nat.not_le.mpr short)

/-- The fields of a context tag with a short length. -/
theorem contextTag_fields
    (known : tagNumber < 16)
    (short : length < 8) :
    ((tagNumber <<< 4) ||| UInt8.ofNat (8 + length)) >>> 4 = tagNumber ∧
      isContextTag ((tagNumber <<< 4) ||| UInt8.ofNat (8 + length)) =
        true ∧
      (((tagNumber <<< 4) ||| UInt8.ofNat (8 + length)) &&& 0x07).toNat =
        length := by
  obtain ⟨number, context, low⟩ :=
    tagOctet_fields ⟨tagNumber.toNat, known⟩ ⟨8 + length, by omega⟩
  rw [UInt8.ofNat_toNat] at number context low
  refine ⟨number, context.trans (decide_eq_true (Nat.le_add_right _ _)),
    low.trans ?_⟩
  rw [Nat.add_mod_left]
  exact Nat.mod_eq_of_lt short

/-- Enough octets follow a tag that announces those of a number. -/
theorem length_le_append
    (value : UInt32)
    (rest : List UInt8) :
    length ≤ (bigEndianOctets value length ++ rest).length := by
  rw [List.length_append, length_bigEndianOctets]
  exact Nat.le_add_right _ _

/-- A context-tagged number is read back up to its length. -/
theorem run_readContextValue
    (known : tagNumber < 16)
    (positive : length ≠ 0)
    (short : length ≤ 4)
    (value : UInt32)
    (rest : List UInt8) :
    (readContextValue tagNumber).run
        (((tagNumber <<< 4) ||| UInt8.ofNat (8 + length)) ::
          (bigEndianOctets value length ++ rest)) =
      .ok (UInt32.ofNat (value.toNat % 256 ^ length), rest) := by
  obtain ⟨number, context, low⟩ :=
    contextTag_fields known (show length < 8 by omega)
  rw [readContextValue, run_bind_of_ok (run_checkedNext_cons _ _),
    run_bind_of_ok (run_remaining _), low, number, context,
    run_require_bind, run_bigEndian value short, UInt32.toNat_zero,
    Nat.zero_mul, Nat.zero_add]
  simp [positive, short, length_bigEndianOctets]

/-- An application-tagged number is read back up to its length. -/
theorem run_readApplicationValue
    (known : tagNumber < 16)
    (positive : length ≠ 0)
    (short : length ≤ 4)
    (value : UInt32)
    (rest : List UInt8) :
    (readApplicationValue tagNumber).run
        (((tagNumber <<< 4) ||| UInt8.ofNat length) ::
          (bigEndianOctets value length ++ rest)) =
      .ok (UInt32.ofNat (value.toNat % 256 ^ length), rest) := by
  obtain ⟨number, context, low⟩ :=
    applicationTag_fields known (show length < 8 by omega)
  rw [readApplicationValue, run_bind_of_ok (run_checkedNext_cons _ _),
    run_bind_of_ok (run_remaining _), low, number, context,
    run_require_bind, run_bigEndian value short, UInt32.toNat_zero,
    Nat.zero_mul, Nat.zero_add]
  simp [positive, short, length_bigEndianOctets]

/-- Looking for a context tag in front of one finds its number. -/
theorem run_atContextTag
    {expectedTag : UInt8}
    (known : tagNumber < 16)
    (short : length < 8)
    (rest : List UInt8) :
    (atContextTag expectedTag).run
        (((tagNumber <<< 4) ||| UInt8.ofNat (8 + length)) :: rest) =
      .ok (tagNumber == expectedTag,
        ((tagNumber <<< 4) ||| UInt8.ofNat (8 + length)) :: rest) := by
  obtain ⟨number, context, _⟩ :=
    contextTag_fields known short
  rw [atContextTag, run_bind_of_ok (run_hasMore _)]
  change (peek >>= _).run _ = _
  rw [run_bind_of_ok (run_peek_cons _ _), number, context, Bool.and_true]
  rfl

end Tags

section Fields

variable {tagNumber : UInt8}

/-- A context-tagged number takes a tag and as many octets as it needs. -/
theorem contextUnsigned_eq
    (tagNumber : UInt8)
    (value : UInt32) :
    ∃ length,
      length ≠ 0 ∧ length ≤ 4 ∧ value.toNat < 256 ^ length ∧
        contextUnsigned tagNumber value =
          ((tagNumber <<< 4) ||| UInt8.ofNat (8 + length)) ::
            bigEndianOctets value length := by
  unfold contextUnsigned
  split
  · rename_i small
    have below : value.toNat ≤ 0xFF := UInt32.le_iff_toNat_le.mp small
    exact ⟨1, by decide, by decide, by omega, rfl⟩
  · split
    · rename_i small
      have below : value.toNat ≤ 0xFFFF := UInt32.le_iff_toNat_le.mp small
      exact ⟨2, by decide, by decide, by omega, rfl⟩
    · have below : value.toNat < 2 ^ 32 := value.toNat_lt
      exact ⟨4, by decide, by decide, by omega, rfl⟩

/-- A context-tagged number is read back. -/
theorem run_readContextValue_contextUnsigned
    (known : tagNumber < 16)
    (value : UInt32)
    (rest : List UInt8) :
    (readContextValue tagNumber).run
        (contextUnsigned tagNumber value ++ rest) = .ok (value, rest) := by
  obtain ⟨length, positive, short, enough, octets⟩ :=
    contextUnsigned_eq tagNumber value
  rw [octets, List.cons_append, run_readContextValue known positive short,
    Nat.mod_eq_of_lt enough, UInt32.ofNat_toNat]

/-- A context-tagged number is found by its tag. -/
theorem run_atContextTag_contextUnsigned
    (known : tagNumber < 16)
    (expectedTag : UInt8)
    (value : UInt32)
    (rest : List UInt8) :
    (atContextTag expectedTag).run
        (contextUnsigned tagNumber value ++ rest) =
      .ok (tagNumber == expectedTag,
        contextUnsigned tagNumber value ++ rest) := by
  obtain ⟨length, _, short, _, octets⟩ := contextUnsigned_eq tagNumber value
  rw [octets, List.cons_append,
    run_atContextTag known (lt_of_le_of_lt short (by decide))]

/-- A context-tagged identifier is read back in its packed form. -/
theorem run_readContextValue_contextObjectIdentifier
    (known : tagNumber < 16)
    (object : BacnetObjectId)
    (rest : List UInt8) :
    (readContextValue tagNumber).run
        (contextObjectIdentifier tagNumber object ++ rest) =
      .ok (encodeObjectId object, rest) := by
  have enough : (encodeObjectId object).toNat < 256 ^ 4 :=
    (encodeObjectId object).toNat_lt
  refine (run_readContextValue known (show 4 ≠ 0 by decide) (by decide)
    (encodeObjectId object) rest).trans ?_
  rw [Nat.mod_eq_of_lt enough, UInt32.ofNat_toNat]

/-- A truth value is sent as a number. -/
theorem contextBoolean_eq
    (tagNumber : UInt8)
    (value : Bool) :
    contextBoolean tagNumber value =
      contextUnsigned tagNumber (if value then 1 else 0) := by
  cases value <;> rfl

/-- A context-tagged floating-point number is read back bit by bit. -/
theorem run_readContextReal_contextReal
    (known : tagNumber < 16)
    (value : Binary32)
    (rest : List UInt8) :
    (readContextReal tagNumber).run
        (contextReal tagNumber value ++ rest) = .ok (value, rest) := by
  obtain ⟨number, context, low⟩ :=
    contextTag_fields known (show 4 < 8 by decide)
  have four :
      (((tagNumber <<< 4) ||| 0x0C) &&& 0x07 : UInt8) = 4 :=
    UInt8.toNat_inj.mp low
  have octets :
      contextReal tagNumber value ++ rest =
        ((tagNumber <<< 4) ||| 0x0C) ::
          (bigEndianOctets value.bits 4 ++ rest) :=
    rfl
  have enough : value.bits.toNat < 256 ^ 4 := value.bits.toNat_lt
  change ((tagNumber <<< 4) ||| 0x0C) >>> 4 = tagNumber at number
  change isContextTag ((tagNumber <<< 4) ||| 0x0C) = true at context
  rw [octets, readContextReal, run_bind_of_ok (run_checkedNext_cons _ _),
    run_bind_of_ok (run_remaining _), number, context, four,
    run_require_bind,
    run_bind_of_ok (run_bigEndian_self le_rfl enough rest)]
  · rfl
  · simp [length_bigEndianOctets]

end Fields

/-- The packed form keeps ten bits of the type and 22 of the instance. -/
theorem toNat_encodeObjectId
    (object : BacnetObjectId) :
    (encodeObjectId object).toNat =
      object.type.toNat % 2 ^ 10 * 2 ^ 22 +
        object.instance_.toNat % 2 ^ 22 := by
  have low : object.instance_.toNat % 2 ^ 22 < 2 ^ 22 :=
    Nat.mod_lt _ (by decide)
  have masked :
      object.instance_.toNat &&& 0x003FFFFF =
        object.instance_.toNat % 2 ^ 22 :=
    Nat.and_two_pow_sub_one_eq_mod object.instance_.toNat 22
  have shifted :
      object.type.toNat <<< 22 % 2 ^ 32 =
        (object.type.toNat % 2 ^ 10) <<< 22 := by
    rw [Nat.shiftLeft_eq, Nat.shiftLeft_eq,
      show (2 : Nat) ^ 32 = 2 ^ 10 * 2 ^ 22 from rfl,
      Nat.mul_mod_mul_right]
  rw [encodeObjectId, UInt32.toNat_or, UInt32.toNat_shiftLeft,
    UInt32.toNat_and, UInt16.toNat_toUInt32]
  change
    object.type.toNat <<< 22 % 2 ^ 32 |||
      (object.instance_.toNat &&& 0x003FFFFF) = _
  rw [masked, shifted, ← Nat.shiftLeft_add_eq_or_of_lt low,
    Nat.shiftLeft_eq]

/-- Ten bits of type and 22 of instance come back. -/
theorem decodeObjectId_encodeObjectId
    (object : BacnetObjectId) :
    decodeObjectId (encodeObjectId object) =
      { type := object.type % 1024,
        instance_ := object.instance_ &&& kObjectInstanceMask } := by
  have packed := toNat_encodeObjectId object
  have low : object.instance_.toNat % 2 ^ 22 < 2 ^ 22 :=
    Nat.mod_lt _ (by decide)
  have masked (value : Nat) : value &&& 0x003FFFFF = value % 2 ^ 22 :=
    Nat.and_two_pow_sub_one_eq_mod value 22
  have typeField :
      (encodeObjectId object >>> 22).toUInt16 = object.type % 1024 := by
    apply UInt16.toNat_inj.mp
    rw [UInt32.toNat_toUInt16, UInt32.toNat_shiftRight, UInt16.toNat_mod,
      packed]
    change (_ >>> 22) % 2 ^ 16 = object.type.toNat % 1024
    rw [Nat.shiftRight_eq_div_pow]
    omega
  have instanceField :
      encodeObjectId object &&& kObjectInstanceMask =
        object.instance_ &&& kObjectInstanceMask := by
    apply UInt32.toNat_inj.mp
    rw [UInt32.toNat_and, UInt32.toNat_and, packed]
    change (_ &&& 0x003FFFFF : Nat) = _ &&& 0x003FFFFF
    rw [masked, masked]
    omega
  rw [decodeObjectId, typeField, instanceField]

/-- An instance within its 22 bits is not changed by the mask. -/
theorem and_kObjectInstanceMask
    {raw : UInt32}
    (small : raw ≤ kObjectInstanceMask) :
    raw &&& kObjectInstanceMask = raw := by
  have below : raw.toNat ≤ 0x003FFFFF := UInt32.le_iff_toNat_le.mp small
  apply UInt32.toNat_inj.mp
  rw [UInt32.toNat_and]
  change raw.toNat &&& 0x003FFFFF = raw.toNat
  exact
    (Nat.and_two_pow_sub_one_eq_mod raw.toNat 22).trans
      (Nat.mod_eq_of_lt (by omega))

/-- An identifier survives packing exactly where its type has ten bits. -/
theorem decodeObjectId_encodeObjectId_eq_self_iff
    {object : BacnetObjectId}
    (small : object.instance_ ≤ kObjectInstanceMask) :
    decodeObjectId (encodeObjectId object) = object ↔
      object.type ≤ 1023 := by
  have remainder : (object.type % 1024).toNat = object.type.toNat % 1024 :=
    UInt16.toNat_mod _ _
  rw [decodeObjectId_encodeObjectId, and_kObjectInstanceMask small,
    UInt16.le_iff_toNat_le]
  change _ ↔ object.type.toNat ≤ 1023
  constructor
  · intro same
    have sameType : object.type % 1024 = object.type :=
      congrArg BacnetObjectId.type same
    rw [sameType] at remainder
    omega
  · intro fits
    have sameType : object.type % 1024 = object.type := by
      apply UInt16.toNat_inj.mp
      omega
    rw [sameType]

/-- The type field of a packed identifier is within its range. -/
theorem encodeObjectId_shiftRight_le
    (object : BacnetObjectId) :
    encodeObjectId object >>> 22 ≤ 1023 := by
  have below : (encodeObjectId object).toNat < 2 ^ 32 :=
    (encodeObjectId object).toNat_lt
  rw [UInt32.le_iff_toNat_le, UInt32.toNat_shiftRight]
  change (encodeObjectId object).toNat >>> 22 ≤ 1023
  rw [Nat.shiftRight_eq_div_pow]
  omega

end BacnetStack
