import Mathlib.Data.Nat.Bitwise
import Mathlib.Tactic.IntervalCases
import BacnetStack.ProtocolNumbers

namespace BacnetStack

/-!
# Application values, encoded and decoded

The encoder writes the fields a value's type names and the decoder reads them
back, adding a printable text.  What comes back is described once, by
`receivedValue`, and every message that carries values uses that description.
-/

open Reader

section CollectBits

variable {ω : Type} [OrOp ω] (toNat : ω → Nat)

/--
Setting one bit for each selected index leaves exactly the bits that were set
before or belong to a selected index.
-/
theorem testBit_foldl_or
    (splits : ∀ left right,
      toNat (left ||| right) = toNat left ||| toNat right)
    {selected : Nat → Prop}
    [DecidablePred selected]
    {mask : Nat → ω}
    {position : Nat → Nat}
    (indices : List Nat)
    (single : ∀ index ∈ indices, toNat (mask index) = 2 ^ position index)
    (start : ω)
    (bit : Nat) :
    (toNat (indices.foldl
      (fun collected index =>
        if selected index then collected ||| mask index else collected)
      start)).testBit bit ↔
      (toNat start).testBit bit ∨
        ∃ index ∈ indices, selected index ∧ position index = bit := by
  induction indices generalizing start with
  | nil =>
      simp
  | cons index rest inductionHypothesis =>
      have others := fun other member =>
        single other (List.mem_cons_of_mem index member)
      rw [List.foldl_cons, inductionHypothesis others]
      by_cases chosen : selected index
      · have sets : toNat (mask index) = 2 ^ position index :=
          single index List.mem_cons_self
        rw [if_pos chosen, splits, Nat.testBit_or, sets,
          Nat.testBit_two_pow]
        simp [chosen, or_assoc]
      · rw [if_neg chosen]
        simp [chosen]

end CollectBits

/-- The bits of an octet that an encoder collected from a bit string. -/
theorem testBit_packedOctet
    (value : UInt32)
    (count octet bit : Nat) :
    (packedOctet value count octet).toNat.testBit bit ↔
      ∃ index < 8,
        (octet * 8 + index < count ∧
          value.toNat.testBit (octet * 8 + index)) ∧
        7 - index = bit := by
  have single :
      ∀ index ∈ List.range 8,
        ((0x80 : UInt8) >>> UInt8.ofNat index).toNat = 2 ^ (7 - index) := by
    decide
  rw [packedOctet, testBit_foldl_or UInt8.toNat UInt8.toNat_or _ single]
  simp

/-- Bit `index` of the packed octets is the one of the bit string. -/
theorem octetBit_packedOctets
    (value : UInt32)
    {count index : Nat}
    (inside : index < count) :
    octetBit
        ((List.range ((count + 7) / 8)).map (packedOctet value count))
        index = value.toNat.testBit index := by
  have present : index / 8 < (count + 7) / 8 := by omega
  have split : index / 8 * 8 + index % 8 = index := Nat.div_add_mod' index 8
  have remainder : index % 8 < 8 := Nat.mod_lt _ (by decide)
  have octet :
      ((List.range ((count + 7) / 8)).map
        (packedOctet value count)).getD (index / 8) 0 =
        packedOctet value count (index / 8) := by
    simp [present]
  rw [octetBit, octet, Bool.eq_iff_iff, testBit_packedOctet]
  constructor
  · rintro ⟨position, small, ⟨_, set⟩, same⟩
    obtain rfl : position = index % 8 := by omega
    rwa [split] at set
  · intro set
    exact ⟨index % 8, remainder, by rw [split]; exact ⟨inside, set⟩, rfl⟩

/-- Reading packed octets back keeps the counted bits. -/
theorem testBit_packBits
    (octets : List UInt8)
    {count : Nat}
    (short : count ≤ 32)
    (bit : Nat) :
    (packBits octets count).toNat.testBit bit ↔
      bit < count ∧ octetBit octets bit := by
  have single :
      ∀ index ∈ List.range count,
        ((1 : UInt32) <<< UInt32.ofNat index).toNat = 2 ^ index := by
    intro index member
    have inside : index < 32 :=
      lt_of_lt_of_le (List.mem_range.mp member) short
    have shift : (UInt32.ofNat index).toNat % 32 = index := by
      rw [UInt32.toNat_ofNat']
      omega
    rw [UInt32.toNat_shiftLeft, shift]
    change 1 <<< index % 2 ^ 32 = 2 ^ index
    rw [Nat.one_shiftLeft]
    exact Nat.mod_eq_of_lt (Nat.pow_lt_pow_right (by decide) inside)
  rw [packBits, testBit_foldl_or UInt32.toNat UInt32.toNat_or _ single]
  simp

/-- The lowest `count` bits of a number. -/
def countedBits
    (value : UInt32)
    (count : Nat) : UInt32 :=
  UInt32.ofNat (value.toNat % 2 ^ count)

/-- The counted bits survive packing. -/
theorem packBits_packedOctets
    (value : UInt32)
    {count : Nat}
    (short : count ≤ 32) :
    packBits
        ((List.range ((count + 7) / 8)).map (packedOctet value count))
        count = countedBits value count := by
  have below : value.toNat % 2 ^ count < 2 ^ 32 :=
    lt_of_le_of_lt (Nat.mod_le _ _) value.toNat_lt
  apply UInt32.toNat_inj.mp
  rw [countedBits, UInt32.toNat_ofNat', Nat.mod_eq_of_lt below]
  apply Nat.eq_of_testBit_eq
  intro bit
  rw [Bool.eq_iff_iff, testBit_packBits _ short, Nat.testBit_mod_two_pow,
    Bool.and_eq_true, decide_eq_true_eq]
  refine and_congr_right fun inside => ?_
  rw [octetBit_packedOctets value inside]

/-- Every signed number needs at least one octet. -/
theorem signedLength_pos (raw : Int32) : signedLength raw ≠ 0 := by
  unfold signedLength
  split
  · decide
  · split
    · decide
    · split <;> decide

/-- A number lies within the range of its octets. -/
theorem toInt_range_signedLength
    (raw : Int32) :
    -(2 ^ (8 * signedLength raw - 1) : Int) ≤ raw.toInt ∧
      raw.toInt < 2 ^ (8 * signedLength raw - 1) := by
  have lower : -(2 ^ 31 : Int) ≤ raw.toInt := Int32.le_toInt raw
  have upper : raw.toInt < 2 ^ 31 := Int32.toInt_lt raw
  unfold signedLength
  simp only [Int32.le_iff_toInt_le]
  split
  · rename_i range
    change (-128 : Int) ≤ _ ∧ _ ≤ (127 : Int) at range
    constructor <;> omega
  · split
    · rename_i range
      change (-32768 : Int) ≤ _ ∧ _ ≤ (32767 : Int) at range
      constructor <;> omega
    · split
      · rename_i range
        change (-8388608 : Int) ≤ _ ∧ _ ≤ (8388607 : Int) at range
        constructor <;> omega
      · constructor <;> omega

/-- The two's complement pattern of a signed number. -/
theorem toNat_toUInt32_eq (raw : Int32) :
    (raw.toUInt32.toNat : Int) =
      if raw.toInt < 0 then raw.toInt + 2 ^ 32 else raw.toInt := by
  have pattern :
      raw.toInt =
        if 2 * raw.toUInt32.toNat < 2 ^ 32 then
          (raw.toUInt32.toNat : Int)
        else
          (raw.toUInt32.toNat : Int) - (2 ^ 32 : Nat) :=
    BitVec.toInt_eq_toNat_cond raw.toBitVec
  have below : raw.toUInt32.toNat < 2 ^ 32 := raw.toUInt32.toNat_lt
  split at pattern <;> split <;> omega

/-- Extending the sign sets all higher octets of a pattern with its top bit. -/
theorem toNat_signExtend
    (value : UInt32)
    {length : Nat}
    (positive : length ≠ 0)
    (short : length ≤ 4)
    (small : value.toNat < 256 ^ length) :
    (signExtend value length).toUInt32.toNat =
      if 2 ^ (8 * length - 1) ≤ value.toNat then
        value.toNat + (2 ^ 32 - 256 ^ length)
      else
        value.toNat := by
  have power : 256 ^ length = 2 ^ (8 * length) := (Nat.pow_mul 2 8 length).symm
  have half : 2 ^ (8 * length) = 2 ^ (8 * length - 1) * 2 := by
    rw [← Nat.pow_succ]
    congr 1
    omega
  have shift :
      (UInt32.ofNat (length * 8 - 1)).toNat % 32 = 8 * length - 1 := by
    rw [UInt32.toNat_ofNat']
    omega
  have mask :
      ((1 : UInt32) <<< UInt32.ofNat (length * 8 - 1)).toNat =
        2 ^ (8 * length - 1) := by
    rw [UInt32.toNat_shiftLeft, shift]
    change 1 <<< _ % 2 ^ 32 = _
    rw [Nat.one_shiftLeft]
    exact Nat.mod_eq_of_lt (Nat.pow_lt_pow_right (by decide) (by omega))
  have topBit :
      value &&& (1 <<< UInt32.ofNat (length * 8 - 1)) ≠ 0 ↔
        2 ^ (8 * length - 1) ≤ value.toNat := by
    have positivePower : 0 < 2 ^ (8 * length - 1) := Nat.two_pow_pos _
    rw [Ne, ← UInt32.toNat_inj, UInt32.toNat_and, mask, Nat.and_two_pow,
      UInt32.toNat_zero, Nat.testBit_eq_decide_div_mod_eq]
    have quotient : value.toNat / 2 ^ (8 * length - 1) < 2 := by
      rw [Nat.div_lt_iff_lt_mul positivePower]
      omega
    have atLeast :
        1 ≤ value.toNat / 2 ^ (8 * length - 1) ↔
          2 ^ (8 * length - 1) ≤ value.toNat := by
      rw [Nat.le_div_iff_mul_le positivePower, Nat.one_mul]
    rw [← atLeast]
    generalize value.toNat / 2 ^ (8 * length - 1) = digit at quotient
    interval_cases digit
    · simp
    · simp
  have extended (partial_ : length < 4) :
      (value ||| (0xFFFFFFFF <<< UInt32.ofNat (length * 8))).toNat =
        value.toNat + (2 ^ 32 - 256 ^ length) := by
    have shifted : (UInt32.ofNat (length * 8)).toNat % 32 = 8 * length := by
      rw [UInt32.toNat_ofNat']
      omega
    have high :
        0xFFFFFFFF <<< (8 * length) % 2 ^ 32 =
          (2 ^ (32 - 8 * length) - 1) <<< (8 * length) := by
      interval_cases length <;> rfl
    rw [UInt32.toNat_or, UInt32.toNat_shiftLeft, shifted]
    change value.toNat ||| 0xFFFFFFFF <<< (8 * length) % 2 ^ 32 = _
    rw [high, Nat.or_comm,
      ← Nat.shiftLeft_add_eq_or_of_lt (power ▸ small), Nat.add_comm]
    interval_cases length <;> rfl
  by_cases negative : 2 ^ (8 * length - 1) ≤ value.toNat
  · rw [if_pos negative]
    have test := topBit.mpr negative
    by_cases partial_ : length < 4
    · rw [← extended partial_, signExtend, if_pos]
      · exact congrArg UInt32.toNat (UInt32.toUInt32_toInt32 _)
      · simpa [partial_] using test
    · obtain rfl : length = 4 := by omega
      rw [signExtend, if_neg (by simp)]
      exact congrArg UInt32.toNat (UInt32.toUInt32_toInt32 value)
  · rw [if_neg negative]
    have test := mt topBit.mp negative
    rw [signExtend, if_neg]
    · exact congrArg UInt32.toNat (UInt32.toUInt32_toInt32 value)
    · simp only [Bool.and_eq_true, bne_iff_ne]
      exact fun both => test both.1

/-- Extending the sign of the lowest octets gives the number back. -/
theorem signExtend_signedLength
    (raw : Int32) :
    signExtend
        (UInt32.ofNat
          (raw.toUInt32.toNat % 256 ^ signedLength raw))
        (signedLength raw) = raw := by
  obtain ⟨lower, upper⟩ := toInt_range_signedLength raw
  have pattern := toNat_toUInt32_eq raw
  have positive := signedLength_pos raw
  have short := signedLength_le raw
  have low :
      raw.toUInt32.toNat % 256 ^ signedLength raw <
        256 ^ signedLength raw :=
    Nat.mod_lt _ (Nat.pow_pos (by decide))
  have kept :
      (UInt32.ofNat
        (raw.toUInt32.toNat % 256 ^ signedLength raw)).toNat =
        raw.toUInt32.toNat % 256 ^ signedLength raw := by
    rw [UInt32.toNat_ofNat']
    exact Nat.mod_eq_of_lt
      (lt_of_le_of_lt (Nat.mod_le _ _) raw.toUInt32.toNat_lt)
  have same :
      (signExtend
        (UInt32.ofNat
          (raw.toUInt32.toNat % 256 ^ signedLength raw))
        (signedLength raw)).toUInt32 = raw.toUInt32 := by
    apply UInt32.toNat_inj.mp
    rw [toNat_signExtend _ positive short (kept.trans_lt low), kept]
    generalize signedLength raw = length at *
    interval_cases length <;> split <;> omega
  exact congrArg UInt32.toInt32 same

/-- The text a decoder attaches to a bit string. -/
def bitStringText
    (value : UInt32)
    (count : Nat) : List UInt8 :=
  asciiBytes "bits=0x" ++ hex32 value ++ asciiBytes "/" ++
    unsignedDecimal (UInt32.ofNat count)

/-- The value a decoder makes of the octets of an encoded value. -/
def receivedValue (value : BacnetValue) : BacnetValue :=
  match value.type with
  | .null => setTextValue {} .null (asciiBytes "null")
  | .boolean =>
      copyTextValue
        { type := .boolean, booleanValue := value.booleanValue }
        (asciiBytes (if value.booleanValue then "true" else "false"))
  | .unsigned =>
      copyTextValue
        { type := .unsigned, unsignedValue := value.unsignedValue }
        (unsignedDecimal value.unsignedValue)
  | .enumerated =>
      copyTextValue
        { type := .enumerated, unsignedValue := value.unsignedValue }
        (unsignedDecimal value.unsignedValue)
  | .signed =>
      copyTextValue
        { type := .signed, signedValue := value.signedValue }
        (signedDecimal value.signedValue)
  | .real =>
      copyTextValue
        { type := .real, realValue := value.realValue }
        (fixed3Decimal value.realValue)
  | .bitString =>
      let bits :=
        countedBits value.bitStringValue value.bitStringBitCount.toNat
      copyTextValue
        { type := .bitString,
          bitStringValue := bits,
          bitStringBitCount := value.bitStringBitCount }
        (bitStringText bits value.bitStringBitCount.toNat)
  | .characterString => { type := .characterString, text := value.text }
  | .objectIdentifier =>
      copyTextValue
        { type := .objectIdentifier, objectValue := value.objectValue }
        (objectIdText value.objectValue)
  | _ => {}

/-- The bits beyond the count are not part of a bit string. -/
theorem bitsOf_countedBits
    (value : UInt32)
    (count : UInt8) :
    bitsOf (countedBits value count.toNat) count = bitsOf value count := by
  have below : value.toNat % 2 ^ count.toNat < 2 ^ 32 :=
    lt_of_le_of_lt (Nat.mod_le _ _) value.toNat_lt
  apply List.map_congr_left
  intro bit member
  have inside : bit < count.toNat := List.mem_range.mp member
  rw [countedBits, UInt32.toNat_ofNat', Nat.mod_eq_of_lt below,
    Nat.testBit_mod_two_pow, decide_eq_true inside, Bool.true_and]

/-- Only these types can be encoded. -/
theorem encodable_of_applicationOctets
    {value : BacnetValue}
    {octets : List UInt8}
    (encoded : applicationOctets value = some octets) :
    value.type ∈
      [.null, .boolean, .unsigned, .signed, .real, .bitString,
        .enumerated, .characterString, .objectIdentifier] := by
  cases kind : value.type <;>
    simp [applicationOctets, encodeApplicationValue, kind] at encoded ⊢

/-- A received value has the type and the content of the one sent. -/
theorem receivedValue_same
    {value : BacnetValue}
    {octets : List UInt8}
    (encoded : applicationOctets value = some octets) :
    (receivedValue value).type = value.type ∧
      (receivedValue value).content = value.content := by
  have encodable := encodable_of_applicationOctets encoded
  cases kind : value.type <;> rw [kind] at encodable
  all_goals
    first
    | exact absurd encodable (by decide)
    | simp [receivedValue, kind, BacnetValue.content, setTextValue,
        copyTextValue, bitsOf_countedBits]

/-! Decoding what was encoded. -/

section Headers

variable {tagNumber : UInt8} {length : Nat}

/-- A short length is found in its tag. -/
theorem run_readApplicationTagHeader
    (known : tagNumber < 16)
    (short : length < 5)
    {rest : List UInt8}
    (present : length ≤ rest.length) :
    (readApplicationTagHeader tagNumber).run
        (((tagNumber <<< 4) ||| UInt8.ofNat length) :: rest) =
      .ok (length, rest) := by
  obtain ⟨number, context, low⟩ :=
    applicationTag_fields known (show length < 8 by omega)
  have lvt :
      ((tagNumber <<< 4) ||| UInt8.ofNat length) &&& 0x07 =
        UInt8.ofNat length := by
    apply UInt8.toNat_inj.mp
    rw [low, UInt8.toNat_ofNat']
    omega
  have field :
      (readLengthField (UInt8.ofNat length)).run rest =
        .ok (length, rest) := by
    interval_cases length <;> rfl
  rw [readApplicationTagHeader, run_bind_of_ok (run_checkedNext_cons _ _),
    number, context, lvt, run_require_bind (by simp),
    run_bind_of_ok field, run_bind_of_ok (run_remaining _),
    run_require_bind (decide_eq_true present)]
  rfl

/-- A longer length follows its tag. -/
theorem run_readApplicationTagHeader_extended
    (known : tagNumber < 16)
    (octet : length < 256)
    {rest : List UInt8}
    (present : length ≤ rest.length) :
    (readApplicationTagHeader tagNumber).run
        (((tagNumber <<< 4) ||| 0x05) :: UInt8.ofNat length :: rest) =
      .ok (length, rest) := by
  obtain ⟨number, context, low⟩ :=
    applicationTag_fields known (show 5 < 8 by decide)
  have lvt : ((tagNumber <<< 4) ||| 0x05) &&& 0x07 = (5 : UInt8) :=
    UInt8.toNat_inj.mp low
  have same : (UInt8.ofNat length).toNat = length := by
    rw [UInt8.toNat_ofNat']
    omega
  have field :
      (readLengthField 5).run (UInt8.ofNat length :: rest) =
        .ok (length, rest) := by
    change Except.ok ((UInt8.ofNat length).toNat, rest) = _
    rw [same]
  change ((tagNumber <<< 4) ||| 0x05) >>> 4 = tagNumber at number
  change isContextTag ((tagNumber <<< 4) ||| 0x05) = false at context
  rw [readApplicationTagHeader, run_bind_of_ok (run_checkedNext_cons _ _),
    number, context, lvt, run_require_bind (by simp),
    run_bind_of_ok field, run_bind_of_ok (run_remaining _),
    run_require_bind (decide_eq_true present)]
  rfl

end Headers

/-- Octets are taken in order. -/
theorem run_takeBytes
    (octets rest : List UInt8) :
    (takeBytes octets.length).run (octets ++ rest) = .ok (octets, rest) := by
  induction octets with
  | nil =>
      rfl
  | cons octet others inductionHypothesis =>
      rw [List.length_cons, takeBytes, List.cons_append,
        run_bind_of_ok (run_next_cons _ _),
        run_bind_of_ok inductionHypothesis]
      rfl

/-- The octets of an unsigned number suffice for it. -/
theorem unsignedLength_enough
    (raw : UInt32) :
    unsignedLength raw ≠ 0 ∧ raw.toNat < 256 ^ unsignedLength raw := by
  have below : raw.toNat < 2 ^ 32 := raw.toNat_lt
  unfold unsignedLength
  simp only [UInt32.le_iff_toNat_le]
  split
  · rename_i small
    change raw.toNat ≤ 0xFF at small
    exact ⟨by decide, by omega⟩
  · split
    · rename_i small
      change raw.toNat ≤ 0xFFFF at small
      exact ⟨by decide, by omega⟩
    · split
      · rename_i small
        change raw.toNat ≤ 0xFFFFFF at small
        exact ⟨by decide, by omega⟩
      · exact ⟨by decide, by omega⟩

/-- The octets of a number that fits the largest buffer. -/
theorem taggedNumber_octets
    {tag : UInt8}
    {raw : UInt32}
    {length : Nat}
    (short : length ≤ 4) :
    taggedNumber kMaxTextLength tag raw length =
      some (((tag <<< 4) ||| UInt8.ofNat length) ::
        bigEndianOctets raw length) := by
  refine if_neg ?_
  change ¬512 < length + 1
  omega

section Decoders

variable (rest : List UInt8)

/-- Unsigned and enumerated numbers are read back. -/
theorem run_parseApplicationUnsigned
    {tag : UInt8}
    (known : tag < 16)
    (raw : UInt32) :
    (parseApplicationUnsigned tag).run
        (((tag <<< 4) ||| UInt8.ofNat (unsignedLength raw)) ::
          (bigEndianOctets raw (unsignedLength raw) ++ rest)) =
      .ok (copyTextValue
        { type := if tag = 9 then .enumerated else .unsigned,
          unsignedValue := raw }
        (unsignedDecimal raw), rest) := by
  obtain ⟨positive, enough⟩ := unsignedLength_enough raw
  rw [parseApplicationUnsigned,
    run_bind_of_ok (run_readApplicationValue known positive
      (unsignedLength_le raw) raw rest),
    Nat.mod_eq_of_lt enough, UInt32.ofNat_toNat]
  rfl

/-- A signed number is read back with its sign. -/
theorem run_parseApplicationSigned
    (raw : Int32) :
    parseApplicationSigned.run
        ((((3 : UInt8) <<< 4) ||| UInt8.ofNat (signedLength raw)) ::
          (bigEndianOctets raw.toUInt32 (signedLength raw) ++ rest)) =
      .ok (copyTextValue { type := .signed, signedValue := raw }
        (signedDecimal raw), rest) := by
  have positive := signedLength_pos raw
  have short := signedLength_le raw
  have fields :=
    applicationTag_fields (show (3 : UInt8) < 16 by decide)
      (show signedLength raw < 8 by omega)
  obtain ⟨number, context, low⟩ := fields
  rw [parseApplicationSigned, run_bind_of_ok (run_checkedNext_cons _ _),
    run_bind_of_ok (run_remaining _), low, number, context,
    run_require_bind (by simp [positive, short, length_bigEndianOctets]),
    run_bind_of_ok (run_bigEndian raw.toUInt32 short 0 rest),
    UInt32.toNat_zero, Nat.zero_mul, Nat.zero_add,
    signExtend_signedLength]
  rfl

/-- A floating-point number is read back bit by bit. -/
theorem run_parseApplicationReal
    (real : Binary32) :
    parseApplicationReal.run
        ((((4 : UInt8) <<< 4) ||| UInt8.ofNat 4) ::
          (bigEndianOctets real.bits 4 ++ rest)) =
      .ok (copyTextValue { type := .real, realValue := real }
        (fixed3Decimal real), rest) := by
  have enough : real.bits.toNat < 256 ^ 4 := real.bits.toNat_lt
  have header :=
    run_readApplicationTagHeader (show (4 : UInt8) < 16 by decide)
      (show 4 < 5 by decide) (length_le_append real.bits rest)
  rw [parseApplicationReal, run_bind_of_ok header,
    run_require_bind (by decide),
    run_bind_of_ok (run_bigEndian_self le_rfl enough rest)]
  rfl

/-- An addressable identifier is read back. -/
theorem run_parseApplicationObjectIdentifier
    {object : BacnetObjectId}
    (objectType : object.type ≤ 1023)
    (objectInstance : object.instance_ ≤ kObjectInstanceMask) :
    parseApplicationObjectIdentifier.run
        ((((12 : UInt8) <<< 4) ||| UInt8.ofNat 4) ::
          (bigEndianOctets (encodeObjectId object) 4 ++ rest)) =
      .ok (copyTextValue
        { type := .objectIdentifier, objectValue := object }
        (objectIdText object), rest) := by
  have enough : (encodeObjectId object).toNat < 256 ^ 4 :=
    (encodeObjectId object).toNat_lt
  have back :=
    (decodeObjectId_encodeObjectId_eq_self_iff objectInstance).mpr
      objectType
  rw [parseApplicationObjectIdentifier,
    run_bind_of_ok (run_readApplicationValue (by decide)
      (show 4 ≠ 0 by decide) le_rfl (encodeObjectId object) rest),
    Nat.mod_eq_of_lt enough, UInt32.ofNat_toNat, back]
  rfl

/-- A text of up to 253 octets is read back. -/
theorem run_parseApplicationCharacterString
    {text : List UInt8}
    (short : text.length ≤ 253) :
    parseApplicationCharacterString.run
        ((if text.length + 1 ≤ 4 then
            (0x70 ||| UInt8.ofNat (text.length + 1)) :: 0 :: text
          else
            0x75 :: UInt8.ofNat (text.length + 1) :: 0 :: text) ++ rest) =
      .ok ({ type := .characterString, text := text }, rest) := by
  have present : text.length + 1 ≤ (0 :: (text ++ rest)).length := by
    rw [List.length_cons, List.length_append]
    omega
  have header :
      (readApplicationTagHeader 7).run
          ((if text.length + 1 ≤ 4 then
              (0x70 ||| UInt8.ofNat (text.length + 1)) :: 0 :: text
            else
              0x75 :: UInt8.ofNat (text.length + 1) :: 0 :: text) ++
            rest) =
        .ok (text.length + 1, 0 :: (text ++ rest)) := by
    split
    · exact run_readApplicationTagHeader (by decide) (by omega) present
    · exact run_readApplicationTagHeader_extended (by decide) (by omega)
        present
  have kept : text.take (kMaxTextLength - 1) = text := by
    apply List.take_of_length_le
    change text.length ≤ 511
    omega
  rw [parseApplicationCharacterString, run_bind_of_ok header,
    run_require_bind (by simp), run_bind_of_ok (run_skip _ _),
    List.drop_one, List.tail_cons, Nat.add_sub_cancel,
    run_bind_of_ok (run_takeBytes text rest)]
  change
    Except.ok
        (({ type := .characterString,
            text := text.take (kMaxTextLength - 1) } : BacnetValue),
          rest) = _
  rw [kept]

/-- The decimal digits of a bit count fit their buffer. -/
theorem length_unsignedDecimal_bitCount :
    ∀ count < 33, (unsignedDecimal (UInt32.ofNat count)).length ≤ 2 := by
  decide

/-- A bit string of at most 24 bits is read back. -/
theorem run_parseApplicationBitString
    (value : UInt32)
    {count : UInt8}
    (positive : count.toNat ≠ 0)
    (short : (count.toNat + 7) / 8 + 1 ≤ 4) :
    parseApplicationBitString.run
        ((0x80 ||| UInt8.ofNat ((count.toNat + 7) / 8 + 1)) ::
          UInt8.ofNat ((count.toNat + 7) / 8 * 8 - count.toNat) ::
          ((List.range ((count.toNat + 7) / 8)).map
            (packedOctet value count.toNat) ++ rest)) =
      .ok (copyTextValue
        { type := .bitString,
          bitStringValue := countedBits value count.toNat,
          bitStringBitCount := count }
        (bitStringText (countedBits value count.toNat) count.toNat),
        rest) := by
  have digits :=
    length_unsignedDecimal_bitCount count.toNat (by omega)
  have packed :=
    packBits_packedOctets value (show count.toNat ≤ 32 by omega)
  have sized :
      ((List.range ((count.toNat + 7) / 8)).map
        (packedOctet value count.toNat)).length =
        (count.toNat + 7) / 8 := by
    simp
  generalize
    (List.range ((count.toNat + 7) / 8)).map
      (packedOctet value count.toNat) = octets at packed sized ⊢
  have header :
      (readApplicationTagHeader 8).run
          ((0x80 ||| UInt8.ofNat ((count.toNat + 7) / 8 + 1)) ::
            UInt8.ofNat ((count.toNat + 7) / 8 * 8 - count.toNat) ::
            (octets ++ rest)) =
        .ok ((count.toNat + 7) / 8 + 1,
          UInt8.ofNat ((count.toNat + 7) / 8 * 8 - count.toNat) ::
            (octets ++ rest)) := by
    refine run_readApplicationTagHeader (by decide) (by omega) ?_
    rw [List.length_cons, List.length_append, sized]
    omega
  have unused :
      (UInt8.ofNat ((count.toNat + 7) / 8 * 8 - count.toNat)).toNat =
        (count.toNat + 7) / 8 * 8 - count.toNat := by
    rw [UInt8.toNat_ofNat']
    omega
  have counted :
      (count.toNat + 7) / 8 * 8 -
        ((count.toNat + 7) / 8 * 8 - count.toNat) = count.toNat := by
    omega
  have checks :
      (decide
        (UInt8.ofNat ((count.toNat + 7) / 8 * 8 - count.toNat) ≤ 7) &&
        decide ((count.toNat + 7) / 8 ≤ 4)) = true := by
    rw [Bool.and_eq_true, decide_eq_true_eq, decide_eq_true_eq,
      UInt8.le_iff_toNat_le, unused]
    change _ ≤ 7 ∧ _
    omega
  have taken := run_takeBytes octets rest
  rw [sized] at taken
  have fits :
      decide ((asciiBytes "bits=0x").length + 8 + 1 +
        (unsignedDecimal (UInt32.ofNat count.toNat)).length + 1 ≤ 32) =
        true := by
    rw [decide_eq_true_eq]
    change 7 + 8 + 1 + _ + 1 ≤ 32
    omega
  rw [parseApplicationBitString, run_bind_of_ok header,
    run_require_bind (by simp; omega), run_bind_of_ok (run_next_cons _ _),
    Nat.add_sub_cancel, run_require_bind checks, run_bind_of_ok taken,
    unused, counted, packed, run_require_bind fits, UInt8.ofNat_toNat]
  rfl

end Decoders

/-- No value takes more octets than the largest buffer has. -/
theorem length_applicationOctets_le
    {value : BacnetValue}
    {octets : List UInt8}
    (encoded : applicationOctets value = some octets) :
    octets.length ≤ kMaxTextLength := by
  have kept := encodeApplicationValue_eq kMaxTextLength value
  change applicationOctets value = _ at kept
  rw [encoded] at kept
  simpa using (Option.filter_eq_some_iff.mp kept.symm).2

/-- The tag number of the first octet selects the decoder. -/
theorem run_parseTaggedApplicationValue_tag
    {tag : UInt8}
    {length : Nat}
    (known : tag < 16)
    (short : length < 8)
    (rest : List UInt8) :
    parseTaggedApplicationValue.run
        (((tag <<< 4) ||| UInt8.ofNat length) :: rest) =
      (if tag = 0 then parseApplicationNull
        else if tag = 1 then parseApplicationBoolean
        else if tag = 2 then parseApplicationUnsigned 2
        else if tag = 3 then parseApplicationSigned
        else if tag = 4 then parseApplicationReal
        else if tag = 7 then parseApplicationCharacterString
        else if tag = 8 then parseApplicationBitString
        else if tag = 9 then parseApplicationUnsigned 9
        else if tag = 12 then parseApplicationObjectIdentifier
        else parseUnsupportedApplicationValue).run
          (((tag <<< 4) ||| UInt8.ofNat length) :: rest) := by
  obtain ⟨number, _, _⟩ := applicationTag_fields known short
  rw [parseTaggedApplicationValue, run_bind_of_ok (run_peek_cons _ _),
    number]

/-- The octets of every encodable value give the value back. -/
theorem run_parseTaggedApplicationValue
    {value : BacnetValue}
    {octets : List UInt8}
    (encoded : applicationOctets value = some octets)
    (rest : List UInt8) :
    parseTaggedApplicationValue.run (octets ++ rest) =
      .ok (receivedValue value, rest) := by
  have encodable := encodable_of_applicationOctets encoded
  have lengthBelow {length : Nat} (short : length ≤ 4) : length < 8 :=
    lt_of_le_of_lt short (by decide)
  unfold applicationOctets encodeApplicationValue at encoded
  rw [if_neg (by decide)] at encoded
  unfold receivedValue
  cases kind : value.type <;> rw [kind] at encodable encoded <;>
    dsimp only at encoded ⊢
  case null =>
    obtain rfl := Option.some.inj encoded
    rfl
  case boolean =>
    obtain rfl := Option.some.inj encoded
    cases value.booleanValue <;> rfl
  case unsigned =>
    rw [taggedNumber_octets (unsignedLength_le _)] at encoded
    obtain rfl := Option.some.inj encoded
    rw [List.cons_append, run_parseTaggedApplicationValue_tag (by decide)
      (lengthBelow (unsignedLength_le _))]
    exact run_parseApplicationUnsigned rest (by decide) _
  case signed =>
    rw [taggedNumber_octets (signedLength_le _)] at encoded
    obtain rfl := Option.some.inj encoded
    rw [List.cons_append, run_parseTaggedApplicationValue_tag (by decide)
      (lengthBelow (signedLength_le _))]
    exact run_parseApplicationSigned rest _
  case enumerated =>
    rw [taggedNumber_octets (unsignedLength_le _)] at encoded
    obtain rfl := Option.some.inj encoded
    rw [List.cons_append, run_parseTaggedApplicationValue_tag (by decide)
      (lengthBelow (unsignedLength_le _))]
    exact run_parseApplicationUnsigned rest (by decide) _
  case real =>
    rw [taggedNumber_octets le_rfl] at encoded
    obtain rfl := Option.some.inj encoded
    rw [List.cons_append, run_parseTaggedApplicationValue_tag (by decide)
      (by decide)]
    exact run_parseApplicationReal rest _
  case bitString =>
    split at encoded
    · cases encoded
    · rename_i inRange
      split at encoded
      · cases encoded
      · rename_i fits
        have positive : value.bitStringBitCount.toNat ≠ 0 :=
          fun none => inRange (Or.inl none)
        have short : (value.bitStringBitCount.toNat + 7) / 8 + 1 ≤ 4 :=
          Nat.le_of_not_lt fun long => fits (Or.inr long)
        obtain rfl := Option.some.inj encoded
        rw [List.cons_append, List.cons_append]
        exact
          (run_parseTaggedApplicationValue_tag
            (show (8 : UInt8) < 16 by decide)
            (lengthBelow short) _).trans
            (run_parseApplicationBitString rest _ positive short)
  case characterString =>
    split at encoded
    · cases encoded
    · rename_i inRange
      have short : value.text.length ≤ 253 :=
        Nat.le_of_not_lt fun long => inRange (Or.inr long)
      rw [← run_parseApplicationCharacterString rest short]
      by_cases brief : value.text.length + 1 ≤ 4
      · simp only [if_pos brief] at encoded
        rw [if_neg (by change ¬512 < _; omega)] at encoded
        obtain rfl := Option.some.inj encoded
        rw [if_pos brief]
        exact
          run_parseTaggedApplicationValue_tag
            (show (7 : UInt8) < 16 by decide) (lengthBelow brief) _
      · simp only [if_neg brief] at encoded
        rw [if_neg (by change ¬512 < _; omega)] at encoded
        obtain rfl := Option.some.inj encoded
        rw [if_neg brief]
        exact
          run_parseTaggedApplicationValue_tag
            (show (7 : UInt8) < 16 by decide) (show 5 < 8 by decide) _
  case objectIdentifier =>
    split at encoded
    · cases encoded
    · rename_i addressable
      rw [taggedNumber_octets le_rfl] at encoded
      obtain rfl := Option.some.inj encoded
      rw [List.cons_append, run_parseTaggedApplicationValue_tag (by decide)
        (by decide)]
      exact run_parseApplicationObjectIdentifier rest
        (UInt16.not_lt.mp fun large => addressable (Or.inl large))
        (UInt32.not_lt.mp fun large => addressable (Or.inr large))
  all_goals exact absurd encodable (by decide)

/-! Properties whose values have a list form. -/

/--
A value that stands for a whole list: Property_List read without an index
always, Object_List read without an index where an identifier comes first.
-/
def ReadsAsList
    (property : BacnetPropertyId)
    (arrayIndex : UInt32)
    (type : BacnetValueType) : Prop :=
  arrayIndex = kBacnetNoArrayIndex ∧
    (property = .propertyList ∨
      property = .objectList ∧ type = .objectIdentifier)

instance (property : BacnetPropertyId) (arrayIndex : UInt32)
    (type : BacnetValueType) :
    Decidable (ReadsAsList property arrayIndex type) :=
  inferInstanceAs (Decidable (_ ∧ (_ ∨ _ ∧ _)))

/-- The decoder of a property behind its first octet. -/
theorem run_parseReadPropertyApplicationValue_cons
    (property : BacnetPropertyId)
    (arrayIndex : UInt32)
    (first : UInt8)
    (rest : List UInt8) :
    (parseReadPropertyApplicationValue property arrayIndex).run
        (first :: rest) =
      (if property = .objectList ∧ first >>> 4 = 2 then
        parseApplicationUnsigned 2
      else if property = .objectList ∧ first >>> 4 = 12 then
        if arrayIndex ≠ kBacnetNoArrayIndex then
          parseApplicationObjectIdentifier
        else
          parseApplicationObjectIdentifierList
      else if property = .propertyList ∧
          arrayIndex = kBacnetNoArrayIndex then
        parseApplicationPropertyIdentifierList
      else if property = .deviceAddressBinding ∧ first = 0x3F then
        return { type := .empty }
      else
        parseTaggedApplicationValue).run (first :: rest) := by
  rw [parseReadPropertyApplicationValue, run_bind_of_ok (run_hasMore _),
    run_require_bind (show (!(first :: rest).isEmpty) = true from rfl),
    run_bind_of_ok (run_peek_cons _ _)]

/-- An identifier is decoded from the tag of an identifier. -/
theorem type_of_identifierTag
    {first : UInt8}
    (tag : first >>> 4 = 12)
    {rest others : List UInt8}
    {value : BacnetValue}
    (decoded :
      parseTaggedApplicationValue.run (first :: rest) =
        .ok (value, others)) :
    value.type = .objectIdentifier := by
  rw [parseTaggedApplicationValue, run_bind_of_ok (run_peek_cons _ _),
    tag] at decoded
  change parseApplicationObjectIdentifier.run _ = _ at decoded
  rw [parseApplicationObjectIdentifier, run_bind_eq_ok_iff] at decoded
  obtain ⟨_, _, _, result⟩ := decoded
  cases result
  rfl

/--
Where the property has no list form, the octets of every encodable value give
the value back.
-/
theorem run_parseReadPropertyApplicationValue
    {value : BacnetValue}
    {octets : List UInt8}
    (encoded : applicationOctets value = some octets)
    {property : BacnetPropertyId}
    {arrayIndex : UInt32}
    (single : ¬ReadsAsList property arrayIndex value.type)
    (rest : List UInt8) :
    (parseReadPropertyApplicationValue property arrayIndex).run
        (octets ++ rest) = .ok (receivedValue value, rest) := by
  have tagged := run_parseTaggedApplicationValue encoded rest
  have sameType := (receivedValue_same encoded).1
  cases octets with
  | nil =>
      exact absurd rfl (applicationOctets_ne_nil encoded)
  | cons first tail =>
      rw [List.cons_append] at tagged ⊢
      rw [run_parseReadPropertyApplicationValue_cons, ← tagged]
      by_cases unsigned : property = .objectList ∧ first >>> 4 = 2
      · rw [if_pos unsigned, parseTaggedApplicationValue,
          run_bind_of_ok (run_peek_cons _ _), unsigned.2]
        rfl
      · rw [if_neg unsigned]
        by_cases identifier : property = .objectList ∧ first >>> 4 = 12
        · have isIdentifier :=
            sameType.symm.trans (type_of_identifierTag identifier.2 tagged)
          have indexed : arrayIndex ≠ kBacnetNoArrayIndex := fun whole =>
            single ⟨whole, Or.inr ⟨identifier.1, isIdentifier⟩⟩
          rw [if_pos identifier, if_pos indexed,
            parseTaggedApplicationValue,
            run_bind_of_ok (run_peek_cons _ _), identifier.2]
          rfl
        · have notList :
              ¬(property = .propertyList ∧
                arrayIndex = kBacnetNoArrayIndex) := fun list =>
            single ⟨list.2, Or.inl list.1⟩
          have notClosed :
              ¬(property = .deviceAddressBinding ∧ first = 0x3F) := by
            rintro ⟨_, rfl⟩
            cases tagged
          rw [if_neg identifier, if_neg notList, if_neg notClosed]

/-- The octets of an identifier start with its tag. -/
theorem applicationOctets_objectIdentifier_head
    {value : BacnetValue}
    (identifier : value.type = .objectIdentifier)
    {octets : List UInt8}
    (encoded : applicationOctets value = some octets) :
    octets.head? = some 0xC4 := by
  unfold applicationOctets encodeApplicationValue at encoded
  rw [if_neg (by decide), identifier] at encoded
  dsimp only at encoded
  split at encoded
  · cases encoded
  · rw [taggedNumber_octets le_rfl] at encoded
    obtain rfl := Option.some.inj encoded
    rfl

/-- A whole Property_List is decoded as a list. -/
theorem run_wholePropertyList
    (first : UInt8)
    (rest : List UInt8) :
    (parseReadPropertyApplicationValue .propertyList
        kBacnetNoArrayIndex).run (first :: rest) =
      parseApplicationPropertyIdentifierList.run (first :: rest) := by
  have notObjects :
      BacnetPropertyId.propertyList ≠ .objectList := by decide
  rw [run_parseReadPropertyApplicationValue_cons,
    if_neg fun both => notObjects both.1,
    if_neg fun both => notObjects both.1, if_pos ⟨rfl, rfl⟩]

/-- A whole Object_List that starts with an identifier is one, too. -/
theorem run_wholeObjectList
    {first : UInt8}
    (identifier : first >>> 4 = 12)
    (rest : List UInt8) :
    (parseReadPropertyApplicationValue .objectList
        kBacnetNoArrayIndex).run (first :: rest) =
      parseApplicationObjectIdentifierList.run (first :: rest) := by
  have notUnsigned : ¬first >>> 4 = 2 := by
    rw [identifier]
    decide
  rw [run_parseReadPropertyApplicationValue_cons,
    if_neg fun both => notUnsigned both.2, if_pos ⟨rfl, identifier⟩,
    if_neg (not_not_intro rfl)]

/-- A decoded Property_List is its text, which is not empty. -/
theorem run_parseApplicationPropertyIdentifierList_iff
    {packet rest : List UInt8}
    {decoded : BacnetValue} :
    parseApplicationPropertyIdentifierList.run packet =
        .ok (decoded, rest) ↔
      ∃ text,
        (propertyIdentifierListText packet.length []).run packet =
            .ok (text, rest) ∧
          text ≠ [] ∧
          decoded = { type := .propertyIdentifierList, text := text } := by
  rw [parseApplicationPropertyIdentifierList,
    run_bind_of_ok (run_remaining _), run_bind_eq_ok_iff]
  refine exists_congr fun text => ?_
  constructor
  · rintro ⟨_, read, checked⟩
    obtain ⟨_, _, passed, result⟩ := run_bind_eq_ok_iff.mp checked
    obtain ⟨nonempty, rfl⟩ := run_require_eq_ok_iff.mp passed
    cases result
    exact ⟨read, by simpa using nonempty, rfl⟩
  · rintro ⟨read, nonempty, rfl⟩
    refine ⟨rest, read, ?_⟩
    rw [run_require_bind (by simpa using nonempty)]
    rfl

/-- A decoded Object_List is its text, which is not empty. -/
theorem run_parseApplicationObjectIdentifierList_iff
    {packet rest : List UInt8}
    {decoded : BacnetValue} :
    parseApplicationObjectIdentifierList.run packet =
        .ok (decoded, rest) ↔
      ∃ text,
        (objectIdentifierListText packet.length []).run packet =
            .ok (text, rest) ∧
          text ≠ [] ∧
          decoded = { type := .objectIdentifierList, text := text } := by
  rw [parseApplicationObjectIdentifierList,
    run_bind_of_ok (run_remaining _), run_bind_eq_ok_iff]
  refine exists_congr fun text => ?_
  constructor
  · rintro ⟨_, read, checked⟩
    obtain ⟨_, _, passed, result⟩ := run_bind_eq_ok_iff.mp checked
    obtain ⟨nonempty, rfl⟩ := run_require_eq_ok_iff.mp passed
    cases result
    exact ⟨read, by simpa using nonempty, rfl⟩
  · rintro ⟨read, nonempty, rfl⟩
    refine ⟨rest, read, ?_⟩
    rw [run_require_bind (by simpa using nonempty)]
    rfl

/-- In a list form nothing but a list is decoded. -/
theorem type_of_readsAsList
    {value : BacnetValue}
    {octets : List UInt8}
    (encoded : applicationOctets value = some octets)
    {property : BacnetPropertyId}
    {arrayIndex : UInt32}
    (listed : ReadsAsList property arrayIndex value.type)
    {rest others : List UInt8}
    {decoded : BacnetValue}
    (read :
      (parseReadPropertyApplicationValue property arrayIndex).run
          (octets ++ rest) = .ok (decoded, others)) :
    decoded.type ≠ value.type := by
  have encodable := encodable_of_applicationOctets encoded
  obtain ⟨first, tail, rfl⟩ :=
    List.exists_cons_of_ne_nil (applicationOctets_ne_nil encoded)
  obtain ⟨rfl, rfl | ⟨rfl, identifier⟩⟩ := listed
  · rw [List.cons_append, run_wholePropertyList,
      run_parseApplicationPropertyIdentifierList_iff] at read
    obtain ⟨_, _, _, rfl⟩ := read
    intro same
    rw [← same] at encodable
    change BacnetValueType.propertyIdentifierList ∈ _ at encodable
    exact absurd encodable (by decide)
  · obtain rfl : first = 0xC4 :=
      Option.some.inj
        (applicationOctets_objectIdentifier_head identifier encoded)
    rw [List.cons_append, run_wholeObjectList (by decide),
      run_parseApplicationObjectIdentifierList_iff] at read
    obtain ⟨_, _, _, rfl⟩ := read
    rw [identifier]
    exact BacnetValueType.noConfusion

/-- The values a message is meant to carry. -/
def Carriable (value : BacnetValue) : Prop :=
  match value.type with
  | .null | .boolean | .unsigned | .enumerated | .signed | .real => True
  | .bitString =>
      value.bitStringBitCount ≠ 0 ∧ value.bitStringBitCount ≤ 32 ∧
        value.bitStringValue.toNat < 2 ^ value.bitStringBitCount.toNat
  | .characterString => value.text.length ≤ 253
  | .objectIdentifier =>
      value.objectValue.type ≤ 1023 ∧
        value.objectValue.instance_ ≤ kObjectInstanceMask
  | _ => False

/-- Two values of the same type that say the same. -/
def SameValue (left right : BacnetValue) : Prop :=
  left.type = right.type ∧ left.content = right.content

/--
Every buffer with enough room takes the same octets of the value, and decoding
them, whatever follows, consumes exactly them and gives the value back.
-/
def SurvivesEncoding (value : BacnetValue) : Prop :=
  ∃ octets,
    (∀ bufferSize, octets.length ≤ bufferSize →
      encodeApplicationValue bufferSize value = some octets) ∧
    ∀ property arrayIndex rest,
      ¬ReadsAsList property arrayIndex value.type →
      ∃ decoded,
        (parseReadPropertyApplicationValue property arrayIndex).run
            (octets ++ rest) = .ok (decoded, rest) ∧
          SameValue decoded value

/-- An encoded value fits every buffer with room for its octets. -/
theorem encodeApplicationValue_of_fits
    {value : BacnetValue}
    {octets : List UInt8}
    (encoded : applicationOctets value = some octets)
    {bufferSize : Nat}
    (fits : octets.length ≤ bufferSize) :
    encodeApplicationValue bufferSize value = some octets := by
  rw [encodeApplicationValue_eq, encoded,
    Option.filter_some_pos (by simpa using fits)]

/-- Every carriable value but a long bit string has its octets. -/
theorem applicationOctets_of_carriable
    {value : BacnetValue}
    (carriable : Carriable value)
    (short : value.type = .bitString → value.bitStringBitCount ≤ 24) :
    ∃ octets, applicationOctets value = some octets := by
  unfold Carriable at carriable
  unfold applicationOctets encodeApplicationValue
  rw [if_neg (by decide)]
  cases kind : value.type <;> rw [kind] at carriable short <;>
    dsimp only at carriable ⊢
  case null => exact ⟨_, rfl⟩
  case boolean => exact ⟨_, rfl⟩
  case unsigned => exact ⟨_, taggedNumber_octets (unsignedLength_le _)⟩
  case signed => exact ⟨_, taggedNumber_octets (signedLength_le _)⟩
  case enumerated => exact ⟨_, taggedNumber_octets (unsignedLength_le _)⟩
  case real => exact ⟨_, taggedNumber_octets le_rfl⟩
  case bitString =>
    obtain ⟨positive, _, _⟩ := carriable
    have count : value.bitStringBitCount.toNat ≤ 24 :=
      UInt8.le_iff_toNat_le.mp (short rfl)
    have notZero : value.bitStringBitCount.toNat ≠ 0 := fun zero =>
      positive (UInt8.toNat_inj.mp zero)
    rw [if_neg (by omega), if_neg (by change ¬(512 < _ ∨ _); omega)]
    exact ⟨_, rfl⟩
  case characterString =>
    rw [if_neg (by change ¬(512 ≤ _ ∨ _); omega)]
    by_cases brief : value.text.length + 1 ≤ 4
    · simp only [if_pos brief]
      exact ⟨_, if_neg (by change ¬512 < _; omega)⟩
    · simp only [if_neg brief]
      exact ⟨_, if_neg (by change ¬512 < _; omega)⟩
  case objectIdentifier =>
    obtain ⟨objectType, objectInstance⟩ := carriable
    rw [if_neg (by
      rintro (large | large)
      · exact absurd objectType (UInt16.not_le.mpr large)
      · exact absurd objectInstance (UInt32.not_le.mpr large))]
    exact ⟨_, taggedNumber_octets le_rfl⟩

/-- A bit string of more than 24 bits is never encoded. -/
theorem encodeApplicationValue_longBitString
    {value : BacnetValue}
    (bits : value.type = .bitString)
    (long : ¬value.bitStringBitCount ≤ 24)
    (bufferSize : Nat) :
    encodeApplicationValue bufferSize value = none := by
  have count : ¬value.bitStringBitCount.toNat ≤ 24 := fun small =>
    long (UInt8.le_iff_toNat_le.mpr small)
  unfold encodeApplicationValue
  rw [bits]
  split
  · rfl
  · dsimp only
    split
    · rfl
    · exact if_pos (Or.inr (by omega))

/--
A carriable value survives exactly where it is no bit string of more than 24
bits: the encoder knows the short form of a length only.
-/
theorem survivesEncoding_iff
    {value : BacnetValue}
    (carriable : Carriable value) :
    SurvivesEncoding value ↔
      (value.type = .bitString → value.bitStringBitCount ≤ 24) := by
  constructor
  · rintro ⟨octets, encodes, _⟩ bits
    by_contra long
    have refused :=
      encodeApplicationValue_longBitString bits long octets.length
    rw [encodes _ le_rfl] at refused
    cases refused
  · intro short
    obtain ⟨octets, encoded⟩ :=
      applicationOctets_of_carriable carriable short
    refine ⟨octets, fun _ => encodeApplicationValue_of_fits encoded, ?_⟩
    intro property arrayIndex rest single
    exact ⟨receivedValue value,
      run_parseReadPropertyApplicationValue encoded single rest,
      receivedValue_same encoded⟩

/-- A bit string, as the server fills its status flags. -/
def bitStringOf
    (bits : UInt32)
    (count : UInt8) : BacnetValue :=
  { type := .bitString, bitStringValue := bits, bitStringBitCount := count }

/-- A bit string of 24 bits survives. -/
theorem survivesEncoding_iff_24 :
    Carriable (bitStringOf 0x00800001 24) ∧
      SurvivesEncoding (bitStringOf 0x00800001 24) := by
  have carriable : Carriable (bitStringOf 0x00800001 24) :=
    ⟨by decide, by decide, by decide⟩
  exact ⟨carriable, (survivesEncoding_iff carriable).mpr fun _ => by decide⟩

/-- A bit string of 25 bits is carriable and does not survive. -/
theorem survivesEncoding_not_25 :
    Carriable (bitStringOf 0x01000001 25) ∧
      ¬SurvivesEncoding (bitStringOf 0x01000001 25) := by
  refine ⟨⟨by decide, by decide, by decide⟩, ?_⟩
  rintro ⟨octets, encodes, _⟩
  have refused :
      encodeApplicationValue octets.length (bitStringOf 0x01000001 25) =
        none :=
    encodeApplicationValue_longBitString rfl (by decide) octets.length
  rw [encodes _ le_rfl] at refused
  cases refused

end BacnetStack
