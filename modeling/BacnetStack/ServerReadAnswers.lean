import BacnetStack.ClientExchange
import BacnetStack.ProtocolReplyKinds
import BacnetStack.ServerPropertyList

namespace BacnetStack

/-!
# The answers of a server, as a client takes them

A client asks, a server with a given configuration answers, and the client
decodes the answer.  The table of subscriptions and the clock of the server
do not matter for the answer to a read.
-/

namespace BacnetServer

/-- The same objects and the same Device. -/
structure SameConfiguration (server running : BacnetServer) : Prop where
  objects : running.objects = server.objects
  device : running.device = server.device

/-- The reply is what a server of this configuration answers to a read. -/
def ReadReply
    (server : BacnetServer)
    (packet reply : List UInt8) : Prop :=
  ∃ running input request,
    server.SameConfiguration running ∧
      running.ReceivesRead input request ∧
      input.packet = packet ∧
      (running.poll input).datagram.map Datagram.packet = some reply

/-- Every server of this configuration acknowledges a read with a value. -/
def Acknowledges
    (server : BacnetServer)
    (request : BacnetPropertyRequest)
    (value : BacnetValue) : Prop :=
  ∀ running input header,
    server.SameConfiguration running →
      header.request = request →
      running.AcknowledgesRead input header [value]

/-- An acknowledged value reaches the client as it was sent. -/
theorem readPropertyOutcome_readAckPacket
    {header : BacnetReadPropertyRequestHeader}
    {value : BacnetValue}
    {octets : List UInt8}
    (encoded : applicationOctets value = some octets)
    (single :
      ¬ReadsAsList header.request.property header.request.arrayIndex
        value.type)
    (short : (readAckPacket header [octets]).length ≤ 0xFFFF) :
    readPropertyOutcome (readAckPacket header [octets]) header.invokeId
        header.request =
      { status := .ack, value := receivedValue value } := by
  have decoded :
      parseReadPropertyAck (readAckPacket header [octets]) header.invokeId
          header.request = (true, receivedValue value) := by
    refine (parseReadPropertyAck_packet short).mpr ⟨[0x3F], ?_, rfl⟩
    rw [List.flatten_singleton]
    exact run_parseReadPropertyApplicationValue encoded single [0x3F]
  rw [readPropertyOutcome,
    classifyReadPropertyResponse_readAckPacket short]
  dsimp only
  rw [decoded]

/-- A request that was built fits into a datagram. -/
theorem length_readRequest_le
    {request : BacnetPropertyRequest}
    {invokeId : UInt8}
    {packet : List UInt8}
    (built : buildReadPropertyRequest 25 request invokeId = some packet) :
    packet.length ≤ kMaxDatagramSize := by
  obtain ⟨-, rfl⟩ := buildReadPropertyRequest_eq_some_iff.mp built
  have reference :=
    length_referenceOctets_le request.object request.property
  have index := length_optionalIndex_le 2 request.arrayIndex
  have size : kMaxDatagramSize = 1476 := rfl
  simp only [confirmedRequestPacket, readPropertyBody, List.length_cons,
    List.length_append]
  omega

/-- A request for an object that can be named is short, and understood. -/
theorem readRequest_understood
    {request : BacnetPropertyRequest}
    (addressable : Addressable request.object)
    (invokeId : UInt8) :
    ∃ packet,
      buildReadPropertyRequest 25 request invokeId = some packet ∧
        packet.length ≤ kMaxDatagramSize ∧
        parseReadPropertyRequest packet =
          .parsed { invokeId := invokeId, request := request } := by
  have same : decodeObjectId (encodeObjectId request.object) =
      request.object :=
    (decodeObjectId_encodeObjectId_eq_self_iff
      addressable.objectInstance).mpr addressable.objectType
  have built :
      buildReadPropertyRequest 25 request invokeId =
        some (confirmedRequestPacket invokeId kServiceReadProperty
          (readPropertyBody request)) :=
    buildReadPropertyRequest_eq_some_iff.mpr
      ⟨⟨Nat.le_refl 25, addressable.objectInstance⟩, rfl⟩
  refine ⟨_, built, length_readRequest_le built, ?_⟩
  rw [parseReadPropertyRequest_of_build built, same]

/--
A read that every server of the configuration acknowledges is answered, and
the client reads the value that was sent.
-/
theorem answeredRead_of_acknowledges
    {server : BacnetServer}
    (ready : server.Ready)
    {request : BacnetPropertyRequest}
    (addressable : Addressable request.object)
    {value : BacnetValue}
    {octets : List UInt8}
    (encoded : applicationOctets value = some octets)
    (few : octets.length ≤ 5)
    (single :
      ¬ReadsAsList request.property request.arrayIndex value.type)
    (acknowledges : server.Acknowledges request value)
    (invokeId : UInt8) :
    ∃ packet,
      ClientSystem.AnsweredRead server.ReadReply request
        (receivedValue value) invokeId packet := by
  obtain ⟨packet, built, fits, parsed⟩ :=
    readRequest_understood addressable invokeId
  have replies
      {running : BacnetServer}
      {input : PollInput}
      {header : BacnetReadPropertyRequestHeader}
      (same : server.SameConfiguration running)
      (received : running.ReceivesRead input header)
      (isPacket : input.packet = packet) :
      (running.poll input).datagram.map Datagram.packet =
        some (readAckPacket { invokeId := invokeId, request := request }
          [octets]) := by
    obtain rfl : header = { invokeId := invokeId, request := request } := by
      have twice := received.parsed
      rw [isPacket, parsed] at twice
      cases twice
      rfl
    obtain ⟨sent, isSent, datagram⟩ :=
      acknowledges running input
        { invokeId := invokeId, request := request } same rfl
    rw [List.mapM_cons, encoded] at isSent
    cases isSent
    rw [poll_read received, datagram]
    rfl
  have short :
      (readAckPacket { invokeId := invokeId, request := request }
        [octets]).length ≤ kMaxDiscoveryPacketSize := by
    have prefixLength :=
      length_readAckPrefix_le { invokeId := invokeId, request := request }
    have size : kMaxDiscoveryPacketSize = 512 := rfl
    rw [length_readAckPacket, List.flatten_singleton]
    omega
  refine ⟨packet, built, ?_, ?_⟩
  · exact ⟨_, ⟨server, { packet := packet }, _, ⟨rfl, rfl⟩,
      ⟨ready, fits, parsed⟩, rfl,
      replies ⟨rfl, rfl⟩ ⟨ready, fits, parsed⟩ rfl⟩, short⟩
  · rintro reply
      ⟨running, input, header, same, received, isPacket, isReply⟩
    obtain rfl := Option.some.inj
      ((replies same received isPacket).symm.trans isReply)
    exact readPropertyOutcome_readAckPacket encoded single
      (short.trans (by decide))

/--
The property of an object is a list of short values, in every state of a
server of this configuration.
-/
structure Enumerates
    (server : BacnetServer)
    (object : BacnetObjectId)
    (property : BacnetPropertyId)
    (values : List BacnetValue) : Prop where
  addressable : Addressable object
  content :
    ∀ running, server.SameConfiguration running →
      running.propertyContent object property =
        .ok (.array (values.map some))
  short :
    ∀ value ∈ values,
      ∃ octets,
        applicationOctets value = some octets ∧ octets.length ≤ 5

namespace Enumerates

variable {server : BacnetServer} {object : BacnetObjectId}
  {property : BacnetPropertyId} {values : List BacnetValue}

/-- Index 0 is answered with the length of the list. -/
theorem answeredLength
    (enumerates : server.Enumerates object property values)
    (ready : server.Ready)
    (invokeId : UInt8) :
    ∃ packet,
      ClientSystem.AnsweredRead server.ReadReply ⟨object, property, 0⟩
        (receivedValue (unsignedValue (UInt32.ofNat values.length)))
        invokeId packet := by
  obtain ⟨octets, encoded, few⟩ :=
    applicationOctets_unsignedValue (UInt32.ofNat values.length)
  have single :
      ¬ReadsAsList property 0
        (unsignedValue (UInt32.ofNat values.length)).type :=
    fun asList => absurd asList.1 (by decide)
  have acknowledges :
      server.Acknowledges ⟨object, property, 0⟩
        (unsignedValue (UInt32.ofNat values.length)) := by
    rintro running input header same isRequest
    have addressable : Addressable header.request.object := by
      rw [isRequest]
      exact enumerates.addressable
    refine acknowledgesRead_single input addressable ?_ encoded few
    rw [isRequest,
      @selected_of_content running ⟨object, property, 0⟩ _
        (enumerates.content running same)]
    have indexed : (0 : UInt32) ≠ kBacnetNoArrayIndex := by decide
    simp [PropertyContent.select, indexed]
  exact answeredRead_of_acknowledges ready enumerates.addressable encoded
    few single acknowledges invokeId

/-- Every other index is answered with its entry. -/
theorem answeredEntry
    (enumerates : server.Enumerates object property values)
    (ready : server.Ready)
    {arrayIndex : UInt32}
    (isEntry : arrayIndex ≠ 0)
    (indexed : arrayIndex ≠ kBacnetNoArrayIndex)
    {value : BacnetValue}
    (found : values[arrayIndex.toNat - 1]? = some value)
    (invokeId : UInt8) :
    ∃ packet,
      ClientSystem.AnsweredRead server.ReadReply
        ⟨object, property, arrayIndex⟩ (receivedValue value) invokeId
        packet := by
  obtain ⟨octets, encoded, few⟩ :=
    enumerates.short value (List.mem_of_getElem? found)
  have single : ¬ReadsAsList property arrayIndex value.type :=
    fun asList => absurd asList.1 indexed
  have acknowledges :
      server.Acknowledges ⟨object, property, arrayIndex⟩ value := by
    rintro running input header same isRequest
    have addressable : Addressable header.request.object := by
      rw [isRequest]
      exact enumerates.addressable
    refine acknowledgesRead_single input addressable ?_ encoded few
    rw [isRequest,
      @selected_of_content running ⟨object, property, arrayIndex⟩ _
        (enumerates.content running same)]
    simp [PropertyContent.select, indexed, isEntry, found]
  exact answeredRead_of_acknowledges ready enumerates.addressable encoded
    few single acknowledges invokeId

end Enumerates

variable {server running : BacnetServer} {object : BacnetObjectId}

theorem SameConfiguration.deviceObject
    (same : server.SameConfiguration running) :
    running.deviceObject = server.deviceObject := by
  rw [BacnetServer.deviceObject, same.device, BacnetServer.deviceObject]

theorem SameConfiguration.lookupObject
    (same : server.SameConfiguration running) :
    running.lookupObject object = server.lookupObject object := by
  rw [BacnetServer.lookupObject, same.objects, same.deviceObject,
    BacnetServer.lookupObject]

theorem SameConfiguration.listedProperties
    (same : server.SameConfiguration running) :
    running.listedProperties object = server.listedProperties object := by
  simp only [BacnetServer.listedProperties, BacnetServer.deviceRegistrations,
    same.objects, same.deviceObject]

/-- The Property_List of a registered object is such a list. -/
theorem enumerates_propertyList
    (kinds : server.objects.DistinctKinds)
    (valid : server.objects.PropertiesValid)
    (device : server.device.deviceInstance ≤ kMaxObjectInstance)
    (isRegistered : server.Registered object) :
    server.Enumerates object .propertyList
      ((server.listedProperties object).map propertyEntry) := by
  refine ⟨isRegistered.addressable kinds device, ?_, ?_⟩
  · intro running same
    have known : (running.lookupObject object).isUnknown = false := by
      rw [same.lookupObject]
      exact isRegistered
    rw [← same.listedProperties]
    exact propertyContent_propertyList known
      (multiStateValue_valid (same.objects ▸ valid))
  · intro value isMember
    obtain ⟨property, -, rfl⟩ := List.mem_map.mp isMember
    exact propertyEntry_short property

end BacnetServer

end BacnetStack
