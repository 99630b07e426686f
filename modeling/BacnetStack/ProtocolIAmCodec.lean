import BacnetStack.ProtocolBuilderBounds
import BacnetStack.ProtocolValueCodec
import BacnetStack.ProtocolRequestCodec

namespace BacnetStack

open PacketWriter Reader

/-!
# Announcements, built and parsed

An I-Am names a device and its limits.  Each of the three limits is written
with as few octets as it needs, so the packet has no fixed layout: the parser
finds every field behind the length its tag announces.
-/

/-- Room for an announcement in a server. -/
abbrev kMaxIAmResponseSize : Nat := 26

/-- A number behind a tag with its least length. -/
def shortestNumber (tag : UInt8) (raw : UInt32) : List UInt8 :=
  ((tag <<< 4) ||| UInt8.ofNat (unsignedLength raw)) ::
    bigEndianOctets raw (unsignedLength raw)

theorem length_shortestNumber (tag : UInt8) (raw : UInt32) :
    (shortestNumber tag raw).length = unsignedLength raw + 1 := by
  rw [shortestNumber, List.length_cons, length_bigEndianOctets]

/-- Every number is read back from its shortest form. -/
theorem run_readApplicationValue_shortestNumber
    {tag : UInt8}
    (known : tag < 16)
    (raw : UInt32)
    (rest : List UInt8) :
    (readApplicationValue tag).run (shortestNumber tag raw ++ rest) =
      .ok (raw, rest) := by
  obtain ⟨positive, enough⟩ := unsignedLength_enough raw
  rw [shortestNumber, List.cons_append,
    run_readApplicationValue known positive (unsignedLength_le raw),
    Nat.mod_eq_of_lt enough, UInt32.ofNat_toNat]

/-- The identifier of a device. -/
def BacnetIAmDeviceInfo.object
    (device : BacnetIAmDeviceInfo) : BacnetObjectId where
  type := BacnetObjectType.device
  instance_ := device.deviceInstance

/-- The fields of an announcement behind its headers. -/
def announcedFields (device : BacnetIAmDeviceInfo) : List UInt8 :=
  0xC4 :: (bigEndianOctets (encodeObjectId device.object) 4 ++
    (shortestNumber 2 device.maxApduLengthAccepted ++
      (shortestNumber 9 device.segmentationSupported.toUInt32 ++
        shortestNumber 2 device.vendorId.toUInt32)))

/-- The octets of an announcement. -/
def announcedPacket (device : BacnetIAmDeviceInfo) : List UInt8 :=
  kBvlcTypeBacnetIp :: kBvlcOriginalUnicastNpdu ::
    UInt8.ofNat (((announcedFields device).length + 8) / 256) ::
    UInt8.ofNat ((announcedFields device).length + 8) ::
    kNpduVersion :: 0 :: kApduUnconfirmedRequest :: kServiceIAm ::
    announcedFields device

/-- The room the builder asks for is what the packet takes. -/
theorem length_announcedPacket (device : BacnetIAmDeviceInfo) :
    (announcedPacket device).length =
      13 + (unsignedLength device.maxApduLengthAccepted + 1) +
        (unsignedLength device.segmentationSupported.toUInt32 + 1) +
        (unsignedLength device.vendorId.toUInt32 + 1) := by
  simp only [announcedPacket, announcedFields, List.length_cons,
    List.length_append, length_bigEndianOctets, length_shortestNumber]
  omega

theorem toUInt32_octet_le (raw : UInt8) : raw.toUInt32 ≤ 0xFF := by
  have bound := raw.toNat_lt
  rw [UInt32.le_iff_toNat_le, UInt8.toNat_toUInt32]
  exact Nat.le_of_lt_succ bound

theorem toUInt32_word_le (raw : UInt16) : raw.toUInt32 ≤ 0xFFFF := by
  have bound := raw.toNat_lt
  rw [UInt32.le_iff_toNat_le, UInt16.toNat_toUInt32]
  exact Nat.le_of_lt_succ bound

/-- A number of 16 bits takes at most two octets. -/
theorem unsignedLength_word_le (raw : UInt16) :
    unsignedLength raw.toUInt32 ≤ 2 := by
  unfold unsignedLength
  rw [if_pos (toUInt32_word_le raw)]
  split <;> decide

/-- No announcement is longer than 23 octets. -/
theorem length_announcedPacket_le (device : BacnetIAmDeviceInfo) :
    (announcedPacket device).length ≤ 23 := by
  have apdu := unsignedLength_le device.maxApduLengthAccepted
  have segmentation :
      unsignedLength device.segmentationSupported.toUInt32 = 1 :=
    if_pos (toUInt32_octet_le device.segmentationSupported)
  have vendor := unsignedLength_word_le device.vendorId
  rw [length_announcedPacket]
  omega

/-- A device whose instance has 22 bits is announced where there is room. -/
theorem buildIAmResponse_eq
    {bufferSize : Nat}
    {device : BacnetIAmDeviceInfo}
    (small : device.deviceInstance ≤ kObjectInstanceMask)
    (room : (announcedPacket device).length ≤ bufferSize) :
    buildIAmResponse bufferSize device = some (announcedPacket device) := by
  have identifier :
      ((8 : UInt32) <<< 22) ||| device.deviceInstance =
        encodeObjectId device.object := by
    rw [encodeObjectId, BacnetIAmDeviceInfo.object,
      and_kObjectInstanceMask small]
    rfl
  have fields :
      13 + (unsignedLength device.maxApduLengthAccepted + 1) +
          (unsignedLength device.segmentationSupported.toUInt32 + 1) +
          (unsignedLength device.vendorId.toUInt32 + 1) ≤ bufferSize :=
    length_announcedPacket device ▸ room
  have written :
      [kBvlcTypeBacnetIp, kBvlcOriginalUnicastNpdu, 0, 0, kNpduVersion, 0] ++
          [kApduUnconfirmedRequest, kServiceIAm, 0xC4] ++
          bigEndianOctets (encodeObjectId device.object) 4 ++
          shortestNumber 2 device.maxApduLengthAccepted ++
          shortestNumber 9 device.segmentationSupported.toUInt32 ++
          shortestNumber 2 device.vendorId.toUInt32 =
        [kBvlcTypeBacnetIp, kBvlcOriginalUnicastNpdu, 0, 0, kNpduVersion, 0,
          kApduUnconfirmedRequest, kServiceIAm] ++ announcedFields device := by
    simp only [announcedFields, List.append_assoc, List.cons_append,
      List.nil_append]
  rw [buildIAmResponse, build_eq_some_iff, writeIAmResponse,
    exec_require_bind_of_true (by
      rw [decide_eq_true fields, decide_eq_true small]
      rfl),
    identifier, putHeaders, exec_put_bind, exec_put_bind, exec_put_bind,
    exec_put_bind, exec_put_bind, exec_put_bind, List.nil_append]
  refine (congrArg (exec storeLength) written).trans ?_
  rw [exec_storeLength, List.length_append, Nat.add_comm]
  rfl

/-- The identifier of a device is read back, whatever follows it. -/
theorem run_readApplicationValue_deviceObject
    (device : BacnetIAmDeviceInfo)
    (rest : List UInt8) :
    (readApplicationValue 12).run
        (0xC4 :: (bigEndianOctets (encodeObjectId device.object) 4 ++
          rest)) =
      .ok (encodeObjectId device.object, rest) := by
  have fits : (encodeObjectId device.object).toNat < 256 ^ 4 :=
    (encodeObjectId device.object).toNat_lt
  have read :=
    run_readApplicationValue (show (12 : UInt8) < 16 by decide)
      (show (4 : Nat) ≠ 0 by decide) (Nat.le_refl 4)
      (encodeObjectId device.object) rest
  rw [Nat.mod_eq_of_lt fits, UInt32.ofNat_toNat] at read
  exact read

/-- The fields of the identifier are the device type and the instance. -/
theorem encodeObjectId_deviceObject
    {device : BacnetIAmDeviceInfo}
    (small : device.deviceInstance ≤ kObjectInstanceMask) :
    encodeObjectId device.object >>> 22 = BacnetObjectType.device.toUInt32 ∧
      encodeObjectId device.object &&& kObjectInstanceMask =
        device.deviceInstance := by
  have packed := toNat_encodeObjectId device.object
  have decoded :
      decodeObjectId (encodeObjectId device.object) = device.object :=
    (decodeObjectId_encodeObjectId_eq_self_iff small).mpr
      (show BacnetObjectType.device ≤ 1023 by decide)
  refine ⟨?_, congrArg BacnetObjectId.instance_ decoded⟩
  have below : device.object.instance_.toNat % 2 ^ 22 < 2 ^ 22 :=
    Nat.mod_lt _ (by decide)
  have deviceType : device.object.type.toNat = 8 := rfl
  apply UInt32.toNat_inj.mp
  rw [UInt32.toNat_shiftRight, packed, deviceType]
  change _ >>> 22 = 8
  rw [Nat.shiftRight_eq_div_pow]
  omega

/-- A parsed announcement is the device it was built from. -/
theorem parseIAmResponse_announced
    {device : BacnetIAmDeviceInfo}
    (small : device.deviceInstance ≤ kObjectInstanceMask) :
    parseIAmResponse (announcedPacket device) = some device := by
  have short : (announcedFields device).length + 8 ≤ 23 :=
    length_announcedPacket_le device
  have long : 14 ≤ (announcedFields device).length + 8 := by
    have exactly : (announcedFields device).length + 8 = _ :=
      length_announcedPacket device
    omega
  obtain ⟨deviceType, deviceInstance⟩ := encodeObjectId_deviceObject small
  have vendor :=
    run_readApplicationValue_shortestNumber (show (2 : UInt8) < 16 by decide)
      device.vendorId.toUInt32 []
  rw [List.append_nil] at vendor
  have read :
      iAmReader.run (announcedPacket device) = .ok (device, []) := by
    rw [iAmReader, announcedPacket,
      run_bind_of_ok (run_readBvlcHeader (by simpa using long)
        (by simpa using announcedLength (by omega))),
      run_bind_of_ok (show readIAmNpduHeader.run _ = .ok ((), _) from rfl),
      run_bind_of_ok (run_remaining _),
      run_require_bind (by simp),
      run_bind_of_ok (run_expect_cons _ _),
      run_bind_of_ok (run_expect_cons _ _), announcedFields,
      run_bind_of_ok (run_readApplicationValue_deviceObject device _),
      run_require_bind (beq_iff_eq.mpr deviceType),
      run_bind_of_ok (run_readApplicationValue_shortestNumber
        (by decide) _ _),
      run_bind_of_ok (run_readApplicationValue_shortestNumber
        (by decide) _ _),
      run_require_bind
        (decide_eq_true (toUInt32_octet_le device.segmentationSupported)),
      run_bind_of_ok vendor,
      run_require_bind (decide_eq_true (toUInt32_word_le device.vendorId)),
      deviceInstance, UInt8.toUInt8_toUInt32, UInt16.toUInt16_toUInt32]
    rfl
  rw [parseIAmResponse, parse?, read]

/--
Every device with an instance of 22 bits is announced within the buffer of a
server, and the announcement is parsed back to the device.
-/
theorem parseIAmResponse_of_build
    (device : BacnetIAmDeviceInfo)
    (small : device.deviceInstance ≤ kObjectInstanceMask) :
    ∃ packet,
      buildIAmResponse kMaxIAmResponseSize device = some packet ∧
        packet.length ≤ kMaxIAmResponseSize ∧
        parseIAmResponse packet = some device := by
  have short := length_announcedPacket_le device
  have room : (announcedPacket device).length ≤ kMaxIAmResponseSize :=
    short.trans (by decide)
  exact ⟨announcedPacket device, buildIAmResponse_eq small room, room,
    parseIAmResponse_announced small⟩

/-- The longest announcement. -/
theorem parseIAmResponse_of_build_longest :
    ∃ packet,
      buildIAmResponse kMaxIAmResponseSize
          ⟨0x3FFFFF, 0xFFFFFFFF, 0xFF, 0xFFFF⟩ = some packet ∧
        packet.length ≤ kMaxIAmResponseSize ∧
        parseIAmResponse packet =
          some ⟨0x3FFFFF, 0xFFFFFFFF, 0xFF, 0xFFFF⟩ :=
  parseIAmResponse_of_build _ (by decide)

end BacnetStack
