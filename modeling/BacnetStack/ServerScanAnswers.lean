import BacnetStack.ClientScanAgreement
import BacnetStack.ServerObjectList
import BacnetStack.ServerReadAnswers

namespace BacnetStack

/-!
# The answers of a server to a scan

A server enumerates its Object_List, and whatever it answers to a read of one
of the listed objects is a response to that read.
-/

namespace BacnetServer

variable {server running : BacnetServer}

/-- A reply to a read is taken for a response, whatever it says. -/
theorem readReply_isResponse
    {request : BacnetPropertyRequest}
    (addressable : Addressable request.object)
    {invokeId : UInt8}
    {packet reply : List UInt8}
    (built : buildReadPropertyRequest 25 request invokeId = some packet)
    (isReply : server.ReadReply packet reply) :
    (readPropertyOutcome reply invokeId request).status ≠ .none := by
  obtain ⟨running, input, header, -, received, isPacket, replies⟩ := isReply
  obtain ⟨understood, builtToo, -, parsed⟩ :=
    readRequest_understood addressable invokeId
  obtain rfl : understood = packet :=
    Option.some.inj (builtToo.symm.trans built)
  obtain rfl : header = { invokeId := invokeId, request := request } := by
    have twice := received.parsed
    rw [isPacket, parsed] at twice
    cases twice
    rfl
  have small : kMaxDatagramSize ≤ 0xFFFF := by decide
  rw [poll_read received] at replies
  rcases handleReadProperty_selected input received.addressable
    with ⟨-, refused⟩ | ⟨values, -, acknowledged⟩
  · rw [RefusesRead] at refused
    rw [refused] at replies
    obtain rfl := Option.some.inj replies
    rw [readPropertyOutcome,
      classifyReadPropertyResponse_serviceErrorPacket]
    dsimp only
    split
    · intro same
      cases same
    · intro same
      cases same
  · rw [acknowledged, Option.map_map] at replies
    obtain ⟨sent, isSent, rfl⟩ := Option.map_eq_some_iff.mp replies
    obtain ⟨encoded, -, fits, rfl⟩ := acknowledgement_eq_some_iff.mp isSent
    have short :
        (readAckPacket { invokeId := invokeId, request := request }
          encoded).length ≤ 0xFFFF := by
      rw [AckFits] at fits
      rw [length_readAckPacket]
      omega
    rw [Function.comp_apply, readPropertyOutcome,
      classifyReadPropertyResponse_readAckPacket short]
    dsimp only
    split
    · intro same
      cases same
    · intro same
      cases same

theorem SameConfiguration.objectSequence
    (same : server.SameConfiguration running) :
    running.objectSequence = server.objectSequence := by
  rw [BacnetServer.objectSequence, same.objects, same.deviceObject,
    BacnetServer.objectSequence]

/-- Everything the Device lists can be named in a request. -/
theorem addressable_objectSequence
    (kinds : server.objects.DistinctKinds)
    (device : server.device.deviceInstance ≤ kMaxObjectInstance) :
    ∀ object ∈ server.objectSequence, Addressable object := by
  intro object isMember
  rcases List.mem_cons.mp isMember with rfl | isRegistered
  · exact ⟨by change BacnetObjectType.device ≤ 1023; decide, device⟩
  · exact kinds.wellRegistered.addressable isRegistered

/-- The list is far shorter than what can be indexed. -/
theorem length_objectSequence_lt
    (kinds : server.objects.DistinctKinds) :
    server.objectSequence.length < kBacnetNoArrayIndex.toNat := by
  have few := kinds.length_identifiers_lt
  rw [objectSequence, List.length_cons]
  change _ < 4294967295
  omega

/-- The Object_List of the Device is a list of identifiers. -/
theorem enumerates_objectList
    (kinds : server.objects.DistinctKinds)
    (device : server.device.deviceInstance ≤ kMaxObjectInstance) :
    server.Enumerates server.deviceObject .objectList
      (server.objectSequence.map objectIdentifierValue) := by
  have addressable := addressable_objectSequence kinds device
  refine ⟨addressable _ List.mem_cons_self, ?_, ?_⟩
  · intro running same
    have oneForm := kinds.wellRegistered.oneForm
    rw [← same.objects] at oneForm
    rw [← same.deviceObject, ← same.objectSequence]
    exact propertyContent_objectList oneForm
  · intro value isMember
    obtain ⟨object, isObject, rfl⟩ := List.mem_map.mp isMember
    exact applicationOctets_objectIdentifier
      (addressable object isObject).objectType
      (addressable object isObject).objectInstance

/-- A ready server answers the reads of a scan. -/
theorem answersScan
    (ready : server.Ready)
    (kinds : server.objects.DistinctKinds)
    (device : server.device.deviceInstance ≤ kMaxObjectInstance) :
    AnswersScan server.ReadReply server.deviceObject
      server.objectSequence := by
  have enumerates := enumerates_objectList kinds device
  have addressable := addressable_objectSequence kinds device
  have indexable := length_objectSequence_lt kinds
  refine ⟨?_, ?_, ?_⟩
  · intro invokeId
    obtain ⟨packet, built, understood⟩ :=
      readsAs_of_answeredRead (enumerates.answeredLength ready) invokeId
    refine ⟨packet, built, fun reply isAnswer => ?_⟩
    obtain ⟨taken, isAck⟩ := understood reply isAnswer
    refine ⟨taken, _, isAck, rfl, ?_⟩
    show (UInt32.ofNat _).toNat = _
    rw [List.length_map]
    exact UInt32.toNat_ofNat_of_lt' (by
      have last : kBacnetNoArrayIndex.toNat = 4294967295 := rfl
      change _ < 4294967296
      omega)
  · intro index object nonzero found invokeId
    have inside := (List.getElem?_eq_some_iff.mp found).1
    have indexed : index ≠ kBacnetNoArrayIndex := by
      rintro rfl
      omega
    have entry :
        (server.objectSequence.map objectIdentifierValue)[
            index.toNat - 1]? =
          some (objectIdentifierValue object) := by
      rw [List.getElem?_map, found]
      rfl
    obtain ⟨packet, built, understood⟩ :=
      readsAs_of_answeredRead
        (enumerates.answeredEntry ready nonzero indexed entry) invokeId
    refine ⟨packet, built, fun reply isAnswer => ?_⟩
    obtain ⟨taken, isAck⟩ := understood reply isAnswer
    exact ⟨taken, _, isAck, rfl, rfl⟩
  · intro object isListed field invokeId
    obtain ⟨packet, built, -, -⟩ :=
      @readRequest_understood
        ⟨object, field.property, kBacnetNoArrayIndex⟩
        (addressable object isListed) invokeId
    refine ⟨packet, built, fun reply isAnswer => ⟨?_, trivial⟩⟩
    rintro answer ⟨⟩
    exact readReply_isResponse (addressable object isListed) built isAnswer

end BacnetServer

end BacnetStack
