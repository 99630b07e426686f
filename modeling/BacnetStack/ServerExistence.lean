import BacnetStack.ServerDispatch
import BacnetStack.ServerReadReply

namespace BacnetStack

open EventRun

/-!
# Which objects exist

Reads look an object up in every registry, writes only in those of the
commandable kinds.  The two agree on an object exactly when it is commandable
or not registered at all.
-/

/-- Error packets with small numbers tell their errors apart. -/
theorem serviceErrorPacket_inj
    {invokeId serviceChoice : UInt8}
    {first second : BacnetError}
    (firstSmall : first.1 ≤ 0xFF ∧ first.2 ≤ 0xFF)
    (secondSmall : second.1 ≤ 0xFF ∧ second.2 ≤ 0xFF)
    (same :
      serviceErrorPacket invokeId serviceChoice first.1 first.2 =
        serviceErrorPacket invokeId serviceChoice second.1 second.2) :
    first = second := by
  have octetInjective
      {left right : UInt32}
      (leftSmall : left ≤ 0xFF)
      (rightSmall : right ≤ 0xFF)
      (sameOctet : left.toUInt8 = right.toUInt8) : left = right := by
    rw [UInt32.le_iff_toNat_le] at leftSmall rightSmall
    have sameNat := congrArg UInt8.toNat sameOctet
    rw [UInt32.toNat_toUInt8, UInt32.toNat_toUInt8] at sameNat
    rw [← UInt32.toNat_inj]
    change left.toNat ≤ 255 at leftSmall
    change right.toNat ≤ 255 at rightSmall
    omega
  simp only [serviceErrorPacket, List.cons.injEq, true_and,
    and_true] at same
  exact Prod.ext
    (octetInjective firstSmall.1 secondSmall.1 same.1)
    (octetInjective firstSmall.2 secondSmall.2 same.2)

namespace BacnetServer

/-- The object is the Device or one of the registered objects. -/
def Registered
    (server : BacnetServer)
    (object : BacnetObjectId) : Prop :=
  (server.lookupObject object).isUnknown = false

/-- The object is a registered one of a commandable kind. -/
def Commandable
    (server : BacnetServer)
    (object : BacnetObjectId) : Prop :=
  (server.objects.findWriteTarget object).isSome = true

/-- The poll answers a request with this error. -/
def AnswersError
    (server : BacnetServer)
    (input : PollInput)
    (invokeId serviceChoice : UInt8)
    (error : BacnetError) : Prop :=
  (server.poll input).datagram =
    some ⟨input.source,
      serviceErrorPacket invokeId serviceChoice error.1 error.2⟩

variable {server : BacnetServer}

/-- What can be written is registered. -/
theorem Commandable.registered
    {object : BacnetObjectId}
    (commandable : server.Commandable object) :
    server.Registered object := by
  unfold Commandable ServerObjects.findWriteTarget at commandable
  rw [Registered, ← Bool.not_eq_true]
  intro isUnknown
  simp only [ObjectLookup.isUnknown, lookupObject, Bool.and_eq_true,
    Option.isNone_iff_eq_none, Bool.not_eq_true'] at isUnknown
  obtain ⟨⟨⟨⟨⟨⟨⟨⟨_, _⟩, noCommandable⟩, noOutput⟩, _⟩, _⟩,
    noBinaryOutput⟩, noBinaryValue⟩, _⟩ := isUnknown
  split at commandable
  · rename_i kind
    rw [if_pos kind] at noBinaryOutput
    simp [noBinaryOutput] at commandable
  · split at commandable
    · rename_i kind
      rw [if_pos kind] at noBinaryValue
      simp [noBinaryValue] at commandable
    · split at commandable
      · rename_i kind
        rw [if_pos kind] at noCommandable
        simp [noCommandable] at commandable
      · split at commandable
        · rename_i kind
          rw [if_pos kind] at noOutput
          simp [noOutput] at commandable
        · cases commandable

/-- A write is refused for an unknown object when it finds none to write. -/
theorem writeProperty_unknownObject_iff
    {objects : ServerObjects}
    {request : BacnetWritePropertyRequestHeader} :
    objects.writeProperty request = .error unknownObjectError ↔
      objects.findWriteTarget request.request.object = none := by
  unfold ServerObjects.writeProperty
  cases found : objects.findWriteTarget request.request.object with
  | none => simp
  | some target =>
      simp only [reduceCtorEq, iff_false]
      intro refused
      repeat' split at refused
      all_goals
        simp at refused

/-- The answer to a write says whether the object is commandable. -/
theorem write_unknownObject_iff
    {input : PollInput}
    {request : BacnetWritePropertyRequestHeader}
    (received : server.ReceivesWrite input request) :
    server.AnswersError input request.invokeId kServiceWriteProperty
        unknownObjectError ↔
      ¬server.Commandable request.request.object := by
  rw [Commandable, Option.not_isSome_iff_eq_none,
    ← writeProperty_unknownObject_iff, AnswersError, poll_write received]
  rcases server.handleWriteProperty_cases input request
    with ⟨effect, accepted, _, built⟩ | ⟨error, refused, _, built⟩
  · rw [built, accepted]
    simp [simpleAckPacket, serviceErrorPacket]
  · have small := writeProperty_error_small refused
    rw [built, refused]
    constructor
    · intro same
      have samePacket := congrArg Datagram.packet (Option.some.inj same)
      exact congrArg Except.error
        (serviceErrorPacket_inj small (by decide) samePacket)
    · intro same
      rw [Except.error.inj same]

/-- The answer to a read says whether the object is registered. -/
theorem read_unknownObject_iff
    {input : PollInput}
    {request : BacnetReadPropertyRequestHeader}
    (received : server.ReceivesRead input request) :
    server.AnswersError input request.invokeId kServiceReadProperty
        unknownObjectError ↔
      ¬server.Registered request.request.object := by
  rw [Registered, Bool.not_eq_false, AnswersError, poll_read received]
  rcases server.handleReadProperty_datagram input request
    with ⟨error, refused, built⟩ | ⟨value, accepted, built⟩
  · rw [built]
    rcases server.checkRead_error refused
      with ⟨isUnknown, rfl⟩ | ⟨known, errors⟩
    · simp [isUnknown]
    · rw [known]
      simp only [Bool.false_eq_true, iff_false]
      intro same
      have samePacket := congrArg Datagram.packet (Option.some.inj same)
      have sameError :=
        @serviceErrorPacket_inj _ _ error unknownObjectError
          errors.small (by decide) samePacket
      rw [sameError] at errors
      revert errors
      unfold PropertyErrors
      decide
  · constructor
    · intro same
      rw [built, Option.map_eq_some_iff] at same
      obtain ⟨packet, isBuilt, isError⟩ := same
      obtain ⟨_, values, _, _, rfl⟩ :=
        ReadAnswer.build_eq_some_iff.mp isBuilt
      have kind := getElem?_readAckPacket request values
      have samePacket :
          readAckPacket request values =
            serviceErrorPacket request.invokeId kServiceReadProperty
              unknownObjectError.1 unknownObjectError.2 :=
        congrArg Datagram.packet isError
      rw [samePacket] at kind
      simp [serviceErrorPacket, kApduError, kApduComplexAck] at kind
    · intro isUnknown
      rw [server.checkRead_of_isUnknown isUnknown] at accepted
      cases accepted

/-- Reads and writes answer alike about whether an object exists. -/
structure AgreesOnExistence
    (server : BacnetServer)
    (writeInput readInput : PollInput)
    (write : BacnetWritePropertyRequestHeader)
    (read : BacnetReadPropertyRequestHeader) : Prop where
  unknown :
    server.AnswersError writeInput write.invokeId kServiceWriteProperty
        unknownObjectError ↔
      server.AnswersError readInput read.invokeId kServiceReadProperty
        unknownObjectError
  readOnly :
    server.Registered write.request.object →
    ¬server.Commandable write.request.object →
    ∃ error,
      error ≠ unknownObjectError ∧
      (error.1 ≤ 0xFF ∧ error.2 ≤ 0xFF) ∧
      server.AnswersError writeInput write.invokeId
        kServiceWriteProperty error

/--
Reads and writes agree about an object precisely when it is commandable or
not registered.
-/
theorem existence_agrees_iff
    {writeInput readInput : PollInput}
    {write : BacnetWritePropertyRequestHeader}
    {read : BacnetReadPropertyRequestHeader}
    (receivesWrite : server.ReceivesWrite writeInput write)
    (receivesRead : server.ReceivesRead readInput read)
    (sameObject : read.request.object = write.request.object) :
    server.AgreesOnExistence writeInput readInput write read ↔
      (server.Registered write.request.object →
        server.Commandable write.request.object) := by
  have writeUnknown := write_unknownObject_iff receivesWrite
  have readUnknown := read_unknownObject_iff receivesRead
  rw [sameObject] at readUnknown
  constructor
  · rintro ⟨unknown, _⟩ registered
    by_contra readOnly
    exact readUnknown.mp (unknown.mp (writeUnknown.mpr readOnly)) registered
  · intro covered
    refine ⟨?_, fun registered readOnly =>
      (readOnly (covered registered)).elim⟩
    rw [writeUnknown, readUnknown, not_iff_not]
    exact ⟨Commandable.registered, covered⟩

/-- A server with one Binary Value. -/
def binaryValueRun : List ServerEvent :=
  startedServer {
    binaryValues := [{ instance_ := 1, objectName := [66] }] }

/-- Write a Boolean to Out_Of_Service of an object. -/
def writeOutOfService (object : BacnetObjectId) : List UInt8 :=
  (buildWritePropertyRequest 64 object .outOfService
    { type := .boolean } {} 7).getD []

/-- Read Object_Name of an object. -/
def readObjectName (object : BacnetObjectId) : List UInt8 :=
  (buildReadPropertyRequest 64 ⟨object, .objectName, kBacnetNoArrayIndex⟩
    8).getD []

/-- The write as it is parsed. -/
def outOfServiceRequest
    (object : BacnetObjectId) : BacnetWritePropertyRequestHeader :=
  { invokeId := 7
    request := { object := object, property := .outOfService }
    value := { type := .boolean, text := [102, 97, 108, 115, 101] } }

/-- The read as it is parsed. -/
def objectNameRequest
    (object : BacnetObjectId) : BacnetReadPropertyRequestHeader :=
  { invokeId := 8, request := { object := object } }

/-- The Device is readable, and unknown to a write. -/
theorem device_unknown_to_write :
    (run step {} binaryValueRun).Registered
        ⟨BacnetObjectType.device, 0⟩ ∧
      (run step {} binaryValueRun).AnswersError
        { packet := writeOutOfService ⟨BacnetObjectType.device, 0⟩ }
        7 kServiceWriteProperty unknownObjectError ∧
      ¬(run step {} binaryValueRun).AgreesOnExistence
        { packet := writeOutOfService ⟨BacnetObjectType.device, 0⟩ }
        { packet := readObjectName ⟨BacnetObjectType.device, 0⟩ }
        (outOfServiceRequest ⟨BacnetObjectType.device, 0⟩)
        (objectNameRequest ⟨BacnetObjectType.device, 0⟩) := by
  have refused :
      ((run step {} binaryValueRun).poll {
          packet := writeOutOfService
            ⟨BacnetObjectType.device, 0⟩ }).datagram =
        some ⟨{}, serviceErrorPacket 7 kServiceWriteProperty 1 31⟩ := by
    decide
  refine ⟨rfl, refused, ?_⟩
  rintro ⟨_, readOnly⟩
  obtain ⟨error, other, small, answered⟩ :=
    readOnly rfl (fun commandable => (by cases commandable))
  have samePacket :=
    congrArg Datagram.packet (Option.some.inj (answered.symm.trans refused))
  exact other
    (@serviceErrorPacket_inj _ _ error unknownObjectError small
      (by decide) samePacket)

/-- Reads and writes agree about the Binary Value. -/
theorem binaryValue_agrees :
    (run step {} binaryValueRun).AgreesOnExistence
      { packet := writeOutOfService ⟨BacnetObjectType.binaryValue, 1⟩ }
      { packet := readObjectName ⟨BacnetObjectType.binaryValue, 1⟩ }
      (outOfServiceRequest ⟨BacnetObjectType.binaryValue, 1⟩)
      (objectNameRequest ⟨BacnetObjectType.binaryValue, 1⟩) := by
  refine (existence_agrees_iff ⟨⟨rfl, rfl⟩, by decide, by decide⟩
    ⟨⟨rfl, rfl⟩, by decide, by decide⟩ rfl).mpr ?_
  intro _
  rfl

end BacnetServer

end BacnetStack
