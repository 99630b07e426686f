import BacnetStack.ServerPropertyContent
import BacnetStack.ServerRegistration

namespace BacnetStack

open EventRun

/-!
# The object list

Counting the objects, checking an index and walking through the registries
are separate computations in the source.  All of them are about one sequence:
the Device, followed by everything that is registered.
-/

/-- Distinct instances in range are at most as many as there are. -/
theorem DistinctInstances.length_le
    {instances : List UInt32}
    (kind : DistinctInstances instances) :
    instances.length ≤ 2 ^ 22 := by
  have images : (instances.map UInt32.toNat).Nodup :=
    kind.distinct.map fun _ _ same => UInt32.toNat_inj.mp same
  have subset : instances.map UInt32.toNat ⊆ List.range (2 ^ 22) := by
    intro number isMember
    obtain ⟨instance_, isInstance, rfl⟩ := List.mem_map.mp isMember
    have bound := kind.bounded instance_ isInstance
    rw [UInt32.le_iff_toNat_le] at bound
    change instance_.toNat ≤ 4194303 at bound
    rw [List.mem_range]
    omega
  have short := (images.subperm subset).length_le
  rwa [List.length_map, List.length_range] at short

namespace ServerObjects

variable {objects : ServerObjects}

/-- A kind in one form lists the objects of both forms. -/
theorem map_registeredObjects
    {Object Identifier : Type}
    (identifierOf : Object → Identifier)
    {array : List Object}
    {objectCentric : List (ObjectCentric Object)}
    (oneForm : array = [] ∨ objectCentric = []) :
    (registeredObjects array objectCentric).map identifierOf =
      array.map identifierOf ++
        objectCentric.map fun source => identifierOf source.object := by
  rcases oneForm with rfl | rfl
  · cases objectCentric <;> simp [registeredObjects]
  · simp [registeredObjects]

/-- Registered objects can be named in a reply. -/
theorem WellRegistered.addressable
    (wellRegistered : objects.WellRegistered)
    {object : BacnetObjectId}
    (isMember : object ∈ objects.identifiers) :
    Addressable object := by
  refine ⟨?_, wellRegistered.bounded object isMember⟩
  obtain ⟨kind, isKind, inKind⟩ := List.mem_flatMap.mp isMember
  obtain ⟨instance_, _, rfl⟩ := List.mem_map.mp inKind
  have types :
      ∀ objectType ∈ objects.instancesByType.map Prod.fst,
        objectType ≤ 1023 := by
    intro objectType isMember
    simp only [instancesByType, List.map_cons, List.map_nil,
      List.mem_cons, List.not_mem_nil, or_false] at isMember
    rcases isMember with rfl | rfl | rfl | rfl | rfl | rfl | rfl <;> decide
  exact types kind.1 (List.mem_map_of_mem isKind)

/-- The Device is of no registered kind. -/
theorem device_not_mem_identifiers
    (instance_ : UInt32) :
    ⟨BacnetObjectType.device, instance_⟩ ∉ objects.identifiers := by
  intro isMember
  obtain ⟨kind, isKind, inKind⟩ := List.mem_flatMap.mp isMember
  obtain ⟨_, _, same⟩ := List.mem_map.mp inKind
  have types :
      BacnetObjectType.device ∉ objects.instancesByType.map Prod.fst := by
    simp only [instancesByType, List.map_cons, List.map_nil]
    decide
  apply types
  rw [← (BacnetObjectId.mk.inj same).1]
  exact List.mem_map_of_mem isKind

/-- Seven kinds of objects are not too many to count. -/
theorem DistinctKinds.length_identifiers_lt
    (kinds : objects.DistinctKinds) :
    objects.identifiers.length + 1 < 2 ^ 25 := by
  have analogValues := kinds.analogValues.length_le
  have analogInputs := kinds.analogInputs.length_le
  have binaryInputs := kinds.binaryInputs.length_le
  have analogOutputs := kinds.analogOutputs.length_le
  have binaryOutputs := kinds.binaryOutputs.length_le
  have binaryValues := kinds.binaryValues.length_le
  have multiStateValues := kinds.multiStateValues.length_le
  simp only [identifiers, instancesByType, List.flatMap_cons,
    List.flatMap_nil, List.length_append, List.length_map,
    List.length_nil] at *
  omega

end ServerObjects

namespace BacnetServer

variable {server : BacnetServer}

/-- The Device, followed by everything that is registered. -/
def objectSequence (server : BacnetServer) : List BacnetObjectId :=
  server.deviceObject :: server.objects.identifiers

/-- A registry is one part of the sequence. -/
theorem entryOf_eq
    {Object : Type}
    {registered : List Object}
    {identifierOf : Object → BacnetObjectId}
    {next : Nat → Option BacnetObjectId}
    {rest : List BacnetObjectId}
    (continues : ∀ index, next index = rest[index]?)
    (index : Nat) :
    entryOf registered identifierOf next index =
      (registered.map identifierOf ++ rest)[index]? := by
  unfold entryOf
  by_cases inside : index < registered.length
  · rw [if_pos inside, List.getElem?_append_left (by simpa using inside),
      List.getElem?_map]
  · rw [if_neg inside, continues,
      List.getElem?_append_right (by simpa using inside), List.length_map]

/-- The identifiers, registry by registry. -/
theorem identifiers_eq
    (oneForm : server.objects.OneFormEach) :
    server.objects.identifiers =
      server.objects.analogValues.map
        (fun value => ⟨BacnetObjectType.analogValue, value.instance_⟩) ++
      (server.objects.commandableAnalogValues.map
        (fun value => ⟨BacnetObjectType.analogValue, value.instance_⟩) ++
      (server.objects.allAnalogInputs.map
        (fun input => ⟨BacnetObjectType.analogInput, input.instance_⟩) ++
      (server.objects.allBinaryInputs.map
        (fun input => ⟨BacnetObjectType.binaryInput, input.instance_⟩) ++
      (server.objects.analogOutputs.map
        (fun output => ⟨BacnetObjectType.analogOutput, output.instance_⟩) ++
      (server.objects.allBinaryOutputs.map
        (fun output => ⟨BacnetObjectType.binaryOutput, output.instance_⟩) ++
      (server.objects.binaryValues.map
        (fun value => ⟨BacnetObjectType.binaryValue, value.instance_⟩) ++
      server.objects.multiStateValues.map
        (fun value =>
          ⟨BacnetObjectType.multiStateValue, value.instance_⟩))))))) := by
  rw [ServerObjects.allAnalogInputs, ServerObjects.allBinaryInputs,
    ServerObjects.allBinaryOutputs,
    ServerObjects.map_registeredObjects _ oneForm.analogInputs,
    ServerObjects.map_registeredObjects _ oneForm.binaryInputs,
    ServerObjects.map_registeredObjects _ oneForm.binaryOutputs]
  simp [ServerObjects.identifiers, ServerObjects.instancesByType,
    Function.comp_def]

/-- The count is the length of the sequence. -/
theorem objectCount_eq
    (oneForm : server.objects.OneFormEach) :
    server.objectCount = server.objectSequence.length := by
  rw [objectSequence, List.length_cons, identifiers_eq oneForm]
  simp only [objectCount, ServerObjects.analogValueCount,
    List.length_append, List.length_map]
  omega

/-- The walk through the registries reads the sequence. -/
theorem objectListEntry_eq
    (oneForm : server.objects.OneFormEach)
    (index : Nat) :
    server.objectListEntry index = server.objectSequence[index]? := by
  unfold objectListEntry
  dsimp only
  rw [objectCount_eq oneForm]
  by_cases past : server.objectSequence.length ≤ index
  · rw [if_pos past, List.getElem?_eq_none past]
  · rw [if_neg past]
    cases index with
    | zero => rfl
    | succ index =>
        rw [if_neg (Nat.succ_ne_zero index), Nat.add_sub_cancel,
          objectSequence, List.getElem?_cons_succ, identifiers_eq oneForm]
        refine entryOf_eq (fun _ => entryOf_eq (fun _ => entryOf_eq
          (fun _ => entryOf_eq (fun _ => entryOf_eq (fun _ => entryOf_eq
            (fun _ => entryOf_eq (fun _ => ?_) _) _) _) _) _) _) _
        rw [List.getElem?_map]

/-- The entries of the list are the sequence. -/
theorem propertyContent_objectList
    (oneForm : server.objects.OneFormEach) :
    server.propertyContent server.deviceObject .objectList =
      .ok (.array
        ((server.objectSequence.map objectIdentifierValue).map some)) := by
  have isDevice :
      (server.lookupObject server.deviceObject).isDevice = true :=
    beq_self_eq_true _
  have known :
      (server.lookupObject server.deviceObject).isUnknown = false := by
    simp [ObjectLookup.isUnknown, isDevice]
  have entries :
      (List.range server.objectSequence.length).map
          (fun index =>
            (server.objectListEntry index).map objectIdentifierValue) =
        (server.objectSequence.map objectIdentifierValue).map some := by
    refine List.ext_getElem? fun index => ?_
    simp only [objectListEntry_eq oneForm, List.getElem?_map]
    by_cases inside : index < server.objectSequence.length
    · rw [List.getElem?_range inside, List.getElem?_eq_getElem inside]
      simp [List.getElem?_eq_getElem inside]
    · rw [List.getElem?_eq_none (by simpa using inside),
        List.getElem?_eq_none (by simpa using inside)]
      rfl
  rw [← entries, ← objectCount_eq oneForm]
  exact @propertyContent_of_list server
    ⟨server.deviceObject, .objectList, kBacnetNoArrayIndex⟩ _ _ known
    (by rw [server.multiStateValue_of_isDevice isDevice]; rfl)
    (by simp [listAnswer, isDevice])

/--
The Device's Object_List is this sequence: it starts with the Device, has
every registered object once, and is what reads of the list answer with.
-/
structure ExactObjectList
    (server : BacnetServer)
    (sequence : List BacnetObjectId) : Prop where
  enumerated : ∀ index, server.objectListEntry index = sequence[index]?
  device : sequence.head? = some server.deviceObject
  distinct : sequence.Nodup
  registered :
    ∀ object,
      object ∈ sequence ↔
        object = server.deviceObject ∨ object ∈ server.objects.identifiers
  received :
    ∀ input request,
      server.ReceivesRead input request →
      server.poll input = server.handleReadProperty input request
  answers :
    server.AnswersAsArray server.deviceObject .objectList
      (sequence.map objectIdentifierValue)

/-- The Device instance of every reachable server is in range. -/
theorem run_deviceInstance_le (events : List ServerEvent) :
    (run step {} events).device.deviceInstance ≤ kMaxObjectInstance := by
  refine run_invariant
    (fun server : BacnetServer =>
      server.device.deviceInstance ≤ kMaxObjectInstance)
    ?_ (by decide) events
  intro server event bounded
  cases event with
  | poll input =>
      dsimp only [step]
      rwa [server.poll_configuration input]
  | setObjects objects => exact bounded
  | start device localPort bound =>
      dsimp only [step, start]
      split
      · rename_i accepted
        simp only [acceptsDevice, Bool.and_eq_true,
          decide_eq_true_eq] at accepted
        exact accepted.1.1.2
      · exact bounded
  | stop => exact bounded
  | setTransport =>
      dsimp only [step, setTransport]
      split <;> exact bounded
  | setClock hasClock => exact bounded
  | setLocalWritePriority priority =>
      dsimp only [step, setLocalWritePriority]
      split <;> exact bounded

/--
Whatever was registered and whatever the server did, its Object_List is the
Device followed by the registered objects.
-/
theorem objectList_exact
    (calls : List RegistrationCall)
    (events : List ServerEvent)
    (registered :
      (run step {} events).objects =
        run ServerObjects.register {} calls) :
    ∃ sequence, (run step {} events).ExactObjectList sequence := by
  have kinds := ServerObjects.run_distinctKinds calls
  have device := run_deviceInstance_le events
  revert registered device
  generalize run step {} events = server
  intro registered device
  rw [← registered] at kinds
  have wellRegistered := kinds.wellRegistered
  have oneForm := wellRegistered.oneForm
  have addressable :
      ∀ object ∈ server.objectSequence, Addressable object := by
    intro object isMember
    rcases List.mem_cons.mp isMember with rfl | isRegistered
    · exact ⟨by change BacnetObjectType.device ≤ 1023; decide, device⟩
    · exact wellRegistered.addressable isRegistered
  have countable :
      (server.objectSequence.map objectIdentifierValue).length <
        kBacnetNoArrayIndex.toNat := by
    have few := kinds.length_identifiers_lt
    rw [List.length_map, objectSequence, List.length_cons]
    change _ < 4294967295
    omega
  exact ⟨server.objectSequence, {
    enumerated := objectListEntry_eq oneForm
    device := rfl
    distinct := List.nodup_cons.mpr
      ⟨ServerObjects.device_not_mem_identifiers _,
        wellRegistered.distinct⟩
    registered := fun _ => List.mem_cons
    received := fun _ _ received => poll_read received
    answers := by
      refine answersAsArray_of_content
        (addressable _ List.mem_cons_self) countable
        (propertyContent_objectList oneForm) ?_
      intro value isMember
      obtain ⟨object, isObject, rfl⟩ := List.mem_map.mp isMember
      exact applicationOctets_objectIdentifier
        (addressable object isObject).objectType
        (addressable object isObject).objectInstance }⟩

/-- Read one entry of a list; the index is always written out. -/
def readEntry
    (object : BacnetObjectId)
    (property : BacnetPropertyId)
    (arrayIndex : UInt32) : List UInt8 :=
  [kBvlcTypeBacnetIp, kBvlcOriginalUnicastNpdu, 0, 22,
    kNpduVersion, kNpduExpectingReply, 0x00, 0x05, 1,
    kServiceReadProperty] ++
  contextObjectIdentifier 0 object ++ contextUnsigned 1 property.raw ++
  [0x2C] ++ bigEndianOctets arrayIndex 4

/-- A server with one Analog Value. -/
def analogValueCalls : List RegistrationCall :=
  [.setAnalogValues (some [⟨{ instance_ := 1, objectName := [65] }, true⟩])]

/-- The server after the registration. -/
def analogValueServer : List ServerEvent :=
  startedServer (run ServerObjects.register {} analogValueCalls)

/--
An index far past the two entries of the list is not refused: the number that
stands for no index is answered with the whole list.
-/
theorem lastIndex_not_refused :
    (run step {} analogValueServer).objectCount = 2 ∧
      2 < (4294967295 : UInt32).toNat ∧
      parseReadPropertyRequest
          (readEntry ⟨BacnetObjectType.device, 0⟩ .objectList
            4294967295) =
        .parsed {
          invokeId := 1
          request := {
            object := ⟨BacnetObjectType.device, 0⟩
            property := .objectList
            arrayIndex := 4294967295 } } ∧
      ¬(run step {} analogValueServer).AnswersError
        { packet :=
            readEntry ⟨BacnetObjectType.device, 0⟩ .objectList 4294967295 }
        1 kServiceReadProperty invalidArrayIndexError := by
  refine ⟨rfl, by decide, by decide, ?_⟩
  unfold AnswersError
  decide

/-- The list of a server with one Analog Value. -/
theorem analogValue_objectList_exact :
    ∃ sequence,
      (run step {} analogValueServer).ExactObjectList sequence :=
  objectList_exact analogValueCalls analogValueServer rfl

end BacnetServer

end BacnetStack
