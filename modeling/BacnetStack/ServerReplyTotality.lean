import BacnetStack.ServerObjectList
import BacnetStack.ServerPropertyContent

namespace BacnetStack

open EventRun

/-!
# Reads without a reply

A read that is refused is always answered.  A read that is accepted is only
answered when everything it selects can be encoded and fits into one packet,
and nothing that is checked at registration makes sure of that.
-/

/-- The longest text with an encoding. -/
abbrev kMaxEncodedTextLength : Nat := 253

/-- The most bits of a bit string with an encoding. -/
abbrev kMaxEncodedBitCount : Nat := 24

/-- Octets a value takes in a reply; `none` where it has no encoding. -/
def encodedSize (value : BacnetValue) : Option Nat :=
  match value.type with
  | .null | .boolean => some 1
  | .unsigned | .enumerated =>
      some (unsignedLength value.unsignedValue + 1)
  | .signed => some (signedLength value.signedValue + 1)
  | .real => some 5
  | .bitString =>
      let bitCount := value.bitStringBitCount.toNat
      if 1 ≤ bitCount ∧ bitCount ≤ kMaxEncodedBitCount then
        some ((bitCount + 7) / 8 + 2)
      else
        none
  | .characterString =>
      let length := value.text.length
      if length ≤ kMaxEncodedTextLength then
        some (if length ≤ 3 then length + 2 else length + 3)
      else
        none
  | .objectIdentifier =>
      if value.objectValue.type ≤ 1023 ∧
          value.objectValue.instance_ ≤ kObjectInstanceMask then
        some 5
      else
        none
  | _ => none

/-- A tagged number takes one octet more than the number. -/
theorem length_taggedNumber
    (tag : UInt8)
    (raw : UInt32)
    {length : Nat}
    (short : length ≤ 4) :
    (taggedNumber kMaxTextLength tag raw length).map List.length =
      some (length + 1) := by
  have room : ¬kMaxTextLength < length + 1 := by
    rw [show kMaxTextLength = 512 from rfl]
    omega
  rw [taggedNumber, if_neg room, Option.map_some, List.length_cons,
    length_bigEndianOctets]

/-- The size of a value is the length of its encoding. -/
theorem length_applicationOctets
    (value : BacnetValue) :
    (applicationOctets value).map List.length = encodedSize value := by
  have capacity : kMaxTextLength = 512 := rfl
  simp only [applicationOctets, encodeApplicationValue, encodedSize,
    if_neg (show kMaxTextLength ≠ 0 by decide)]
  cases value.type with
  | null => rfl
  | boolean => rfl
  | unsigned => exact length_taggedNumber _ _ (unsignedLength_le _)
  | signed => exact length_taggedNumber _ _ (signedLength_le _)
  | enumerated => exact length_taggedNumber _ _ (unsignedLength_le _)
  | real => exact length_taggedNumber _ _ le_rfl
  | bitString =>
      dsimp only
      generalize value.bitStringBitCount.toNat = bitCount
      by_cases empty : bitCount = 0 ∨ 32 < bitCount
      · rw [if_pos empty, if_neg (by unfold kMaxEncodedBitCount; omega)]
        rfl
      · rw [if_neg empty]
        by_cases long : 4 < (bitCount + 7) / 8 + 1
        · rw [if_pos (.inr long),
            if_neg (by unfold kMaxEncodedBitCount; omega)]
          rfl
        · rw [if_neg (by omega),
            if_pos (by unfold kMaxEncodedBitCount; omega)]
          simp
  | characterString =>
      dsimp only
      by_cases long : 253 < value.text.length
      · rw [if_pos (.inr long), if_neg (Nat.not_le.mpr long)]
        rfl
      · rw [if_neg (by omega), if_pos (Nat.le_of_not_lt long)]
        by_cases short : value.text.length + 1 ≤ 4
        · rw [if_pos short, if_pos short, if_neg (by omega),
            if_pos (by omega)]
          simp
        · rw [if_neg short, if_neg short, if_neg (by omega),
            if_neg (by omega)]
          simp
  | objectIdentifier =>
      dsimp only
      by_cases addressable :
          value.objectValue.type ≤ 1023 ∧
            value.objectValue.instance_ ≤ kObjectInstanceMask
      · rw [if_neg (not_or.mpr ⟨UInt16.not_lt.mpr addressable.1,
          UInt32.not_lt.mpr addressable.2⟩), if_pos addressable]
        exact length_taggedNumber _ _ le_rfl
      · rw [if_pos, if_neg addressable]
        · rfl
        · rw [not_and_or, UInt16.not_le, UInt32.not_le] at addressable
          exact addressable
  | _ => rfl

/-- The sizes of values that are all available and encodable. -/
def encodedSizes
    (values : List (Option BacnetValue)) : Option (List Nat) :=
  values.mapM fun value => value.bind encodedSize

/-- The sizes of several values add up to the length of their octets. -/
theorem length_encoded
    (values : List (Option BacnetValue)) :
    (values.mapM fun value : Option BacnetValue =>
        value.bind applicationOctets).map
        (fun encoded => encoded.flatten.length) =
      (encodedSizes values).map List.sum := by
  induction values with
  | nil => rfl
  | cons value rest inductionHypothesis =>
      have size :
          (value.bind applicationOctets).map List.length =
            value.bind encodedSize := by
        cases value with
        | none => rfl
        | some value => exact length_applicationOctets value
      rw [encodedSizes, List.mapM_cons, List.mapM_cons, ← size,
        ← encodedSizes]
      cases value.bind applicationOctets with
      | none => rfl
      | some octets =>
          revert inductionHypothesis
          cases rest.mapM fun value : Option BacnetValue =>
              value.bind applicationOctets with
          | none =>
              cases encodedSizes rest with
              | none => exact fun _ => rfl
              | some sizes => exact fun different => nomatch different
          | some encoded =>
              cases encodedSizes rest with
              | none => exact fun different => nomatch different
              | some sizes =>
                  intro sameLength
                  have sameSum := Option.some.inj sameLength
                  simp only [List.length_flatten] at sameSum
                  simp [sameSum]

namespace BacnetServer

variable
  {server : BacnetServer}
  {input : PollInput}
  {request : BacnetReadPropertyRequestHeader}

/-- The poll answers a read, with values or with an error. -/
def RepliesToRead
    (server : BacnetServer)
    (input : PollInput)
    (request : BacnetReadPropertyRequestHeader) : Prop :=
  (∃ encoded,
    (server.poll input).datagram =
      some ⟨input.source, readAckPacket request encoded⟩) ∨
  ∃ error,
    server.AnswersError input request.invokeId kServiceReadProperty error

/--
Everything a read selects is available and has an encoding, and together with
the header it fits into one packet.
-/
def ReplyFits
    (server : BacnetServer)
    (request : BacnetReadPropertyRequestHeader) : Prop :=
  ∀ values,
    server.selected request.request = some values →
    ∃ sizes,
      encodedSizes values = some sizes ∧
      (readAckPrefix request).length + sizes.sum + 2 ≤ kMaxDatagramSize

/-- Values of these sizes are acknowledged exactly when they fit. -/
theorem acknowledgement_isSome_iff
    {values : List (Option BacnetValue)} :
    (acknowledgement request values).isSome = true ↔
      ∃ sizes,
        encodedSizes values = some sizes ∧
        (readAckPrefix request).length + sizes.sum + 2 ≤
          kMaxDatagramSize := by
  have sizes := length_encoded values
  rw [Option.isSome_iff_exists]
  simp only [acknowledgement_eq_some_iff]
  constructor
  · rintro ⟨_, encoded, areEncoded, fits, _⟩
    rw [areEncoded, Option.map_some, eq_comm,
      Option.map_eq_some_iff] at sizes
    obtain ⟨sizes, areSizes, sum⟩ := sizes
    refine ⟨sizes, areSizes, ?_⟩
    rw [sum]
    exact fits
  · rintro ⟨sizes', areSizes, fits⟩
    rw [areSizes, Option.map_some, Option.map_eq_some_iff] at sizes
    obtain ⟨encoded, areEncoded, length⟩ := sizes
    refine ⟨_, encoded, areEncoded, ?_, rfl⟩
    rw [AckFits, length]
    exact fits

/-- A read is answered exactly when what it selects fits. -/
theorem read_replied_iff
    (received : server.ReceivesRead input request) :
    server.RepliesToRead input request ↔ server.ReplyFits request := by
  rw [RepliesToRead]
  simp only [AnswersError, poll_read received]
  rcases handleReadProperty_selected input received.addressable
    with ⟨nothing, answered⟩ | ⟨values, selects, sent⟩
  · constructor
    · intro _ values selects
      rw [nothing] at selects
      cases selects
    · exact fun _ => .inr ⟨_, answered⟩
  · constructor
    · intro replied others selectsOthers
      obtain rfl := Option.some.inj (selects.symm.trans selectsOthers)
      refine acknowledgement_isSome_iff.mp ?_
      rw [← Option.not_isNone, Bool.not_eq_true',
        ← Bool.not_eq_true, Option.isNone_iff_eq_none]
      intro unanswered
      rw [unanswered, Option.map_none] at sent
      rcases replied with ⟨_, acknowledged⟩ | ⟨_, refused⟩
      · rw [sent] at acknowledged
        cases acknowledged
      · rw [sent] at refused
        cases refused
    · intro fits
      obtain ⟨packet, built⟩ := Option.isSome_iff_exists.mp
        (acknowledgement_isSome_iff.mpr (fits values selects))
      obtain ⟨encoded, _, _, rfl⟩ :=
        acknowledgement_eq_some_iff.mp built
      rw [built] at sent
      exact .inl ⟨encoded, sent⟩

/-- A Binary Value with a name of 254 characters. -/
def longNameCalls : List RegistrationCall :=
  [.setBinaryValues
    (some [⟨{
      instance_ := 1
      objectName := List.replicate 254 65 }, true⟩])]

/-- The server after the registration. -/
def longNameServer : List ServerEvent :=
  startedServer (run ServerObjects.register {} longNameCalls)

/-- The poll that receives a read of the name. -/
def longNameRead : PollInput :=
  { packet := readObjectName ⟨BacnetObjectType.binaryValue, 1⟩ }

set_option maxRecDepth 4000 in
/-- The object is accepted, but a read of its name has no reply. -/
theorem longName_not_replied :
    (ServerObjects.perform {} longNameCalls[0]).2 = true ∧
      (run step {} longNameServer).ReceivesRead longNameRead
        (objectNameRequest ⟨BacnetObjectType.binaryValue, 1⟩) ∧
      ¬(run step {} longNameServer).RepliesToRead longNameRead
        (objectNameRequest ⟨BacnetObjectType.binaryValue, 1⟩) := by
  have silent :
      ((run step {} longNameServer).poll longNameRead).datagram = none := by
    decide
  refine ⟨by decide, ⟨⟨rfl, rfl⟩, by decide, by decide⟩, ?_⟩
  rintro (⟨_, acknowledged⟩ | ⟨_, refused⟩)
  · rw [silent] at acknowledged
    cases acknowledged
  · rw [AnswersError, silent] at refused
    cases refused

/-- A read of a short name is answered. -/
theorem shortName_replied :
    (run step {} binaryValueRun).RepliesToRead
        { packet := readObjectName ⟨BacnetObjectType.binaryValue, 1⟩ }
        (objectNameRequest ⟨BacnetObjectType.binaryValue, 1⟩) ↔
      (run step {} binaryValueRun).ReplyFits
        (objectNameRequest ⟨BacnetObjectType.binaryValue, 1⟩) :=
  read_replied_iff ⟨⟨rfl, rfl⟩, by decide, by decide⟩

end BacnetServer

end BacnetStack
