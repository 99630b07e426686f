import BacnetStack.ClientPropertyList
import BacnetStack.ClientRuns
import BacnetStack.ServerDirectLink

namespace BacnetStack

/-!
# Reading the property list of a server

Over a link that delivers, a client that reads a Property_List gets what the
server enumerates: the length, and as many entries as it has room for.  The
length is counted in 32 bits, and the last index stands for no index.
-/

namespace BacnetPropertyListReadResult

/-- The result of a list of which all entries were asked for that fit. -/
structure Reports
    (result : BacnetPropertyListReadResult)
    (listed : List BacnetPropertyId)
    (hasProperties : Bool)
    (propertyCapacity : Nat) : Prop where
  acknowledged : result.status = .ack
  advertised : result.advertised.toNat = listed.length
  stored : result.stored = min listed.length propertyCapacity
  truncated :
    result.truncated = true ↔ propertyCapacity < listed.length
  properties :
    result.properties =
      if hasProperties then listed.take propertyCapacity else []

/-- Entries that were read one after another. -/
theorem foldl_store
    (hasProperties : Bool)
    (entries : List BacnetPropertyId)
    (result : BacnetPropertyListReadResult) :
    entries.foldl (fun result => result.store hasProperties) result =
      { result with
        stored := result.stored + entries.length
        properties :=
          if hasProperties then result.properties ++ entries
          else result.properties } := by
  induction entries generalizing result with
  | nil => cases hasProperties <;> simp
  | cons entry rest inductionHypothesis =>
      have counted :
          result.stored + 1 + rest.length = result.stored + (rest.length + 1) :=
        Nat.add_right_comm _ _ _
      rw [List.foldl_cons, inductionHypothesis]
      cases hasProperties <;> simp [store, counted]

end BacnetPropertyListReadResult

namespace ClientSystem

variable {τ : Type} {runtime : ClientRuntime τ} {peer : BacnetIpEndpoint}
  {timeoutMs : UInt32} {answers : List UInt8 → List UInt8 → Prop}
  {atRest : τ → Prop}

/-- Entries that are acknowledged are stored, one after another. -/
theorem readPropertyListEntries_of_delivers
    (delivers : DeliversReplies runtime peer timeoutMs answers atRest)
    (id : SessionId)
    (object : BacnetObjectId)
    (hasProperties : Bool)
    (entries : List BacnetPropertyId)
    (index : Nat)
    (answered :
      ∀ offset property, entries[offset]? = some property →
        ∀ invokeId, ∃ packet,
          AnsweredRead answers
            (propertyListRequest object
              (UInt32.ofNat (index + offset + 1)))
            (receivedValue (BacnetServer.propertyEntry property)) invokeId
            packet)
    (result : BacnetPropertyListReadResult)
    {system : ClientSystem τ}
    (canCall : system.CanCall id peer atRest) :
    ∃ least after,
      after.CanCall id peer atRest ∧
        ∀ rounds, least ≤ rounds →
          readPropertyListEntries runtime id object hasProperties timeoutMs
              rounds entries.length index result system =
            (some (entries.foldl
              (fun result => result.store hasProperties) result),
              after) := by
  induction entries generalizing index result system with
  | nil => exact ⟨0, system, canCall, fun _ _ => rfl⟩
  | cons property rest inductionHypothesis =>
      obtain ⟨first, middle, canGoOn, reads⟩ :=
        readPropertyDetailed_of_delivers delivers canCall
          (answered 0 property rfl)
      obtain ⟨others, after, canCallAgain, readsRest⟩ :=
        inductionHypothesis (index + 1)
          (fun offset property found => by
            have later := answered (offset + 1) property found
            rwa [show index + (offset + 1) + 1 = index + 1 + offset + 1 by
              omega] at later)
          (result.store hasProperties property) canGoOn
      refine ⟨max first others, after, canCallAgain, ?_⟩
      intro rounds enough
      have acknowledged :
          (PropertyReadResult.ofPoll
            { status := .ack
              value :=
                receivedValue (BacnetServer.propertyEntry property) }
            (UInt32.ofNat (index + 1))).status = .ack := rfl
      rw [List.length_cons, readPropertyListEntries]
      have read := reads rounds (le_trans (le_max_left _ _) enough)
      rw [Nat.add_zero] at read
      rw [read]
      exact readsRest rounds (le_trans (le_max_right _ _) enough)

/-- Over a link that delivers, an enumerated list is read as far as it fits. -/
theorem readPropertyList_of_enumerates
    {server : BacnetServer}
    (ready : server.Ready)
    {object : BacnetObjectId}
    {listed : List BacnetPropertyId}
    (enumerates :
      server.Enumerates object .propertyList
        (listed.map BacnetServer.propertyEntry))
    (delivers :
      DeliversReplies runtime peer timeoutMs server.ReadReply atRest)
    {system : ClientSystem τ}
    {id : SessionId}
    (canCall : system.CanCall id peer atRest)
    (hasProperties : Bool)
    {propertyCapacity : Nat}
    (countable : listed.length < 2 ^ 32)
    (indexable :
      min listed.length propertyCapacity < kBacnetNoArrayIndex.toNat) :
    ∃ least after,
      ∀ rounds, least ≤ rounds →
        ∃ result,
          system.readPropertyList runtime id object hasProperties
              propertyCapacity timeoutMs rounds = (some result, after) ∧
            result.Reports listed hasProperties propertyCapacity := by
  have length :
      (UInt32.ofNat listed.length).toNat = listed.length :=
    UInt32.toNat_ofNat_of_lt' countable
  obtain ⟨first, middle, canGoOn, readsLength⟩ :=
    readPropertyDetailed_of_delivers delivers canCall
      (enumerates.answeredLength ready)
  have answered
      (offset : Nat)
      (property : BacnetPropertyId)
      (found : (listed.take propertyCapacity)[offset]? = some property)
      (invokeId : UInt8) :
      ∃ packet,
        AnsweredRead server.ReadReply
          (propertyListRequest object (UInt32.ofNat (0 + offset + 1)))
          (receivedValue (BacnetServer.propertyEntry property)) invokeId
          packet := by
    obtain ⟨inside, -⟩ := List.getElem?_eq_some_iff.mp found
    rw [List.length_take, Nat.min_comm] at inside
    have last : kBacnetNoArrayIndex.toNat = 4294967295 := rfl
    have index : (UInt32.ofNat (0 + offset + 1)).toNat = offset + 1 := by
      rw [Nat.zero_add]
      exact UInt32.toNat_ofNat_of_lt' (by
        change offset + 1 < 4294967296
        omega)
    refine enumerates.answeredEntry ready ?_ ?_ ?_ invokeId
    · intro isZero
      rw [isZero] at index
      exact absurd index (by simp)
    · intro isLast
      rw [isLast] at index
      omega
    · rw [index, Nat.add_sub_cancel, List.getElem?_map]
      rw [List.getElem?_take_of_lt (by omega)] at found
      rw [found]
      rfl
  obtain ⟨others, after, -, readsEntries⟩ :=
    readPropertyListEntries_of_delivers delivers id object hasProperties
      (listed.take propertyCapacity) 0 answered
      (BacnetPropertyListReadResult.advertise { status := .ack }
        (UInt32.ofNat listed.length) propertyCapacity)
      canGoOn
  refine ⟨max first others, after, fun rounds enough => ?_⟩
  have limit :
      (BacnetPropertyListReadResult.advertise { status := .ack }
          (UInt32.ofNat listed.length) propertyCapacity).limit
          propertyCapacity =
        (listed.take propertyCapacity).length := by
    rw [BacnetPropertyListReadResult.limit,
      BacnetPropertyListReadResult.advertise, length, List.length_take]
    split <;> omega
  have reads :
      system.readPropertyList runtime id object hasProperties
          propertyCapacity timeoutMs rounds =
        (some ((listed.take propertyCapacity).foldl
          (fun result => result.store hasProperties)
          (BacnetPropertyListReadResult.advertise { status := .ack }
            (UInt32.ofNat listed.length) propertyCapacity)), after) := by
    rw [readPropertyList, propertyListRequest,
      readsLength rounds (le_trans (le_max_left _ _) enough),
      List.length_map]
    rw [← readsEntries rounds (le_trans (le_max_right _ _) enough), ← limit]
    rfl
  refine ⟨_, reads, ?_⟩
  rw [BacnetPropertyListReadResult.foldl_store,
    BacnetPropertyListReadResult.advertise]
  refine ⟨rfl, length, ?_, ?_, ?_⟩
  · simp [Nat.min_comm]
  · simp [length]
  · simp

/--
Whatever was registered and whatever the server did, a client on a link that
delivers reads its Property_Lists, as far as they can be counted and indexed.
-/
theorem readPropertyList_agrees
    (calls : List RegistrationCall)
    (events : List ServerEvent)
    (registered :
      (EventRun.run BacnetServer.step {} events).objects =
        EventRun.run ServerObjects.register {} calls)
    (ready : (EventRun.run BacnetServer.step {} events).Ready)
    {object : BacnetObjectId}
    (isRegistered :
      (EventRun.run BacnetServer.step {} events).Registered object)
    (delivers :
      DeliversReplies runtime peer timeoutMs
        (EventRun.run BacnetServer.step {} events).ReadReply atRest)
    {system : ClientSystem τ}
    {id : SessionId}
    (canCall : system.CanCall id peer atRest)
    (hasProperties : Bool)
    {propertyCapacity : Nat}
    (countable :
      ((EventRun.run BacnetServer.step {} events).listedProperties
        object).length < 2 ^ 32)
    (indexable :
      min
          ((EventRun.run BacnetServer.step {} events).listedProperties
            object).length propertyCapacity <
        kBacnetNoArrayIndex.toNat) :
    ∃ least after,
      ∀ rounds, least ≤ rounds →
        ∃ result,
          system.readPropertyList runtime id object hasProperties
              propertyCapacity timeoutMs rounds = (some result, after) ∧
            result.Reports
              ((EventRun.run BacnetServer.step {} events).listedProperties
                object) hasProperties propertyCapacity := by
  have kinds := ServerObjects.run_distinctKinds calls
  have valid := ServerObjects.run_propertiesValid calls
  rw [← registered] at kinds valid
  exact readPropertyList_of_enumerates ready
    (BacnetServer.enumerates_propertyList kinds valid
      (BacnetServer.run_deviceInstance_le events) isRegistered)
    delivers canCall hasProperties countable indexable

/-- A client with one session, on a direct link to a server. -/
def directSystem (server : BacnetServer) : ClientSystem DirectLink where
  client := { running := true, transport := { server := server } }
  sessions _ := { endpoint := scriptedPeer }

theorem canCall_directSystem
    {server : BacnetServer}
    (ready : server.Ready)
    (id : SessionId) :
    (directSystem server).CanCall id scriptedPeer
      (DirectLink.AtRest server) :=
  ⟨⟨rfl, ⟨rfl, rfl⟩, ready, rfl⟩, rfl, rfl, rfl⟩

/-- The list of an Analog Value is read into a buffer for two entries. -/
theorem readPropertyList_agrees_analogValue :
    ∃ least after,
      ∀ rounds, least ≤ rounds →
        ∃ result,
          (directSystem (EventRun.run BacnetServer.step {}
                BacnetServer.analogValueServer)).readPropertyList
              (directRuntime scriptedPeer) 0
              ⟨BacnetObjectType.analogValue, 1⟩ true 2 1000 rounds =
            (some result, after) ∧
          result.Reports
            ((EventRun.run BacnetServer.step {}
              BacnetServer.analogValueServer).listedProperties
                ⟨BacnetObjectType.analogValue, 1⟩) true 2 := by
  have isRegistered :
      (EventRun.run BacnetServer.step {}
        BacnetServer.analogValueServer).Registered
          ⟨BacnetObjectType.analogValue, 1⟩ := rfl
  exact readPropertyList_agrees BacnetServer.analogValueCalls
    BacnetServer.analogValueServer rfl ⟨rfl, rfl⟩ isRegistered
    (directRuntime_delivers scriptedPeer 1000 _)
    (canCall_directSystem ⟨rfl, rfl⟩ 0) true (by decide) (by decide)

end ClientSystem

/-- Complete, valid records with new keys are accepted as an array. -/
theorem acceptsArray_of_distinct
    {Object Key : Type}
    [DecidableEq Key]
    {keyOf : Object → Key}
    {valid : Object → Bool}
    {objects : List Object}
    {previous : List Key}
    (distinct : (objects.map keyOf).Nodup)
    (fresh : ∀ object ∈ objects, keyOf object ∉ previous)
    (allValid : ∀ object ∈ objects, valid object = true) :
    acceptsArray keyOf valid previous
      (objects.map fun object => ⟨object, true⟩) = true := by
  induction objects generalizing previous with
  | nil => rfl
  | cons object rest inductionHypothesis =>
      rw [List.map_cons, List.nodup_cons] at distinct
      have restAccepted := @inductionHypothesis (keyOf object :: previous)
        distinct.2
        (fun other isMember => by
          rw [List.mem_cons, not_or]
          refine ⟨fun same => distinct.1 ?_,
            fresh other (List.mem_cons_of_mem _ isMember)⟩
          rw [← same]
          exact List.mem_map_of_mem isMember)
        (fun other isMember =>
          allValid other (List.mem_cons_of_mem _ isMember))
      simp only [List.map_cons, acceptsArray, Bool.true_and,
        Bool.and_eq_true, Bool.not_eq_true', decide_eq_false_iff_not]
      exact ⟨⟨allValid object List.mem_cons_self,
        fresh object List.mem_cons_self⟩, restAccepted⟩

/-- All property identifiers but that of the list itself. -/
theorem exists_everyProperty :
    ∃ every : List BacnetPropertyId,
      every.Nodup ∧
        (∀ property, property ∈ every ↔ property ≠ .propertyList) ∧
          every.length + 1 = 2 ^ 32 := by
  obtain ⟨size, isSize⟩ : ∃ size, size = 2 ^ 32 := ⟨_, rfl⟩
  rw [← isSize]
  let identifier (index : Fin size) : BacnetPropertyId :=
    ⟨UInt32.ofNat index⟩
  have injective : Function.Injective identifier := by
    intro left right same
    have sameRaw := congrArg UInt32.toNat (congrArg BacnetPropertyId.raw same)
    rw [UInt32.toNat_ofNat_of_lt' (isSize ▸ left.isLt),
      UInt32.toNat_ofNat_of_lt' (isSize ▸ right.isLt)] at sameRaw
    exact Fin.ext sameRaw
  have everything (property : BacnetPropertyId) :
      property ∈ (List.finRange size).map identifier := by
    refine List.mem_map.mpr
      ⟨⟨property.raw.toNat, isSize ▸ property.raw.toNat_lt⟩,
        List.mem_finRange _, ?_⟩
    show (⟨UInt32.ofNat property.raw.toNat⟩ : BacnetPropertyId) = property
    rw [UInt32.ofNat_toNat]
  have distinct := (List.nodup_finRange size).map injective
  refine ⟨((List.finRange size).map identifier).erase .propertyList,
    distinct.erase _, fun property => ?_, ?_⟩
  · rw [distinct.mem_erase_iff]
    exact and_iff_left (everything property)
  · rw [List.length_erase_of_mem (everything _), List.length_map,
      List.length_finRange]
    omega

/-- An Analog Value, with a registration for each of the given properties. -/
def crowdedCalls (every : List BacnetPropertyId) : List RegistrationCall :=
  [.setAnalogValues (some [⟨{ instance_ := 1, objectName := [65] }, true⟩]),
    .setPropertyRegistrations
      (some ((every.map fun property =>
        (⟨⟨BacnetObjectType.analogValue, 1⟩, property, none⟩ :
          BacnetServerPropertyRegistration)).map (⟨·, true⟩)))]

/-- What these calls leave registered. -/
def crowdedObjects (every : List BacnetPropertyId) : ServerObjects where
  analogValues := [{ instance_ := 1, objectName := [65] }]
  propertyRegistrations :=
    every.map fun property =>
      ⟨⟨BacnetObjectType.analogValue, 1⟩, property, none⟩

theorem run_crowdedCalls
    {every : List BacnetPropertyId}
    (distinct : every.Nodup)
    (others : ∀ property ∈ every, property ≠ .propertyList) :
    EventRun.run ServerObjects.register {} (crowdedCalls every) =
      crowdedObjects every := by
  have accepted :
      acceptsArray
          (fun registration : BacnetServerPropertyRegistration =>
            (registration.object, registration.property))
          ServerObjects.validPropertyRegistration []
          ((every.map fun property =>
            (⟨⟨BacnetObjectType.analogValue, 1⟩, property, none⟩ :
              BacnetServerPropertyRegistration)).map (⟨·, true⟩)) =
        true := by
    refine acceptsArray_of_distinct ?_ (fun _ _ => List.not_mem_nil) ?_
    · rw [List.map_map]
      exact distinct.map fun _ _ same => (Prod.mk.inj same).2
    · intro registration isMember
      obtain ⟨property, isListed, rfl⟩ := List.mem_map.mp isMember
      have other := others property isListed
      have isValue :
          BacnetObjectType.analogValue ≠ BacnetObjectType.device := by
        decide
      have isInstance : (1 : UInt32) ≤ kMaxObjectInstance := by decide
      simp [ServerObjects.validPropertyRegistration, other, isValue,
        isInstance]
  have stored :
      registerArray
          (fun registration : BacnetServerPropertyRegistration =>
            (registration.object, registration.property))
          ServerObjects.validPropertyRegistration []
          (some ((every.map fun property =>
            (⟨⟨BacnetObjectType.analogValue, 1⟩, property, none⟩ :
              BacnetServerPropertyRegistration)).map (⟨·, true⟩))) =
        ((crowdedObjects every).propertyRegistrations, true) := by
    rw [registerArray, if_pos accepted, List.map_map]
    simp [crowdedObjects]
  have first :
      ServerObjects.register {}
          (.setAnalogValues
            (some [⟨{ instance_ := 1, objectName := [65] }, true⟩])) =
        { analogValues := (crowdedObjects every).analogValues } := rfl
  rw [crowdedCalls, EventRun.run_cons, EventRun.run_cons, first,
    EventRun.run_nil, ServerObjects.register, ServerObjects.perform,
    ServerObjects.setPropertyRegistrations, stored]
  rfl

/-- The value lists every property there is. -/
theorem length_listed_crowdedObjects
    {every : List BacnetPropertyId}
    (distinct : every.Nodup)
    (everything :
      ∀ property, property ∈ every ↔ property ≠ .propertyList) :
    ((crowdedObjects every).listedProperties
        ⟨BacnetObjectType.analogValue, 1⟩).length =
      every.length + 1 := by
  have base :
      (crowdedObjects every).baseProperties
          ⟨BacnetObjectType.analogValue, 1⟩ =
        some kAnalogValueProperties := rfl
  have optional :
      (crowdedObjects every).extraOptional
          ⟨BacnetObjectType.analogValue, 1⟩ kAnalogValueProperties = [] :=
    rfl
  have registrations :
      (crowdedObjects every).extraRegistrations
          ⟨BacnetObjectType.analogValue, 1⟩ kAnalogValueProperties =
        every.filter fun property =>
          !kAnalogValueProperties.contains property := by
    simp [ServerObjects.extraRegistrations, crowdedObjects,
      List.filter_map, List.map_map, Function.comp_def]
  have baseDistinct : kAnalogValueProperties.Nodup := by decide
  have listsItself : .propertyList ∈ kAnalogValueProperties := by decide
  have listedBase :
      (every.filter fun property =>
        kAnalogValueProperties.contains property).length =
      (kAnalogValueProperties.erase .propertyList).length := by
    refine ((List.perm_ext_iff_of_nodup (distinct.filter _)
      (baseDistinct.erase _)).mpr fun property => ?_).length_eq
    rw [List.mem_filter, everything, List.contains_iff_mem,
      baseDistinct.mem_erase_iff]
  have erased := List.length_erase_of_mem listsItself
  have nonempty := List.length_pos_of_mem listsItself
  have split := @List.length_eq_length_filter_add _ every
    (fun property => kAnalogValueProperties.contains property)
  rw [ServerObjects.listedProperties, base, Option.getD_some, optional,
    registrations, List.append_nil, List.length_append]
  omega

/-- A started server has what was registered. -/
theorem run_startedServer
    {objects : ServerObjects}
    (noDevice :
      ∀ registration ∈ objects.propertyRegistrations,
        registration.object.type ≠ BacnetObjectType.device) :
    EventRun.run BacnetServer.step {}
        (startedServer objects) =
      { hasTransport := true
        hasClock := true
        running := true
        objects := objects } := by
  have accepts :
      BacnetServer.acceptsDevice
          { hasTransport := true, hasClock := true, objects := objects }
          {} = true := by
    simp only [BacnetServer.acceptsDevice, Bool.true_and, Bool.and_eq_true,
      List.all_eq_true]
    refine ⟨by decide, fun registration isMember => ?_⟩
    rw [bne_iff_ne.mpr (noDevice registration isMember), Bool.true_or]
  show BacnetServer.start
    { hasTransport := true, hasClock := true, objects := objects } {} 47808
      true = _
  rw [BacnetServer.start, accepts]
  rfl

/-- A list with more entries than 32 bits can count is not reported. -/
theorem not_readPropertyList_agrees :
    ¬∀ (calls : List RegistrationCall)
      (events : List ServerEvent)
      (object : BacnetObjectId)
      (atRest : DirectLink → Prop)
      (peer : BacnetIpEndpoint)
      (timeoutMs : UInt32)
      (system : ClientSystem DirectLink)
      (id : SessionId)
      (hasProperties : Bool)
      (propertyCapacity : Nat),
      (EventRun.run BacnetServer.step {} events).objects =
          EventRun.run ServerObjects.register {} calls →
        (EventRun.run BacnetServer.step {} events).Ready →
        (EventRun.run BacnetServer.step {} events).Registered object →
        DeliversReplies (directRuntime peer) peer timeoutMs
            (EventRun.run BacnetServer.step {} events).ReadReply atRest →
        system.CanCall id peer atRest →
        ∃ least after,
          ∀ rounds, least ≤ rounds →
            ∃ result,
              system.readPropertyList (directRuntime peer) id object
                  hasProperties propertyCapacity timeoutMs rounds =
                (some result, after) ∧
              result.Reports
                ((EventRun.run BacnetServer.step {}
                  events).listedProperties object)
                hasProperties propertyCapacity := by
  intro always
  obtain ⟨every, distinct, everything, length⟩ := exists_everyProperty
  have registered :=
    run_crowdedCalls distinct fun property => (everything property).mp
  have noDevice :
      ∀ registration ∈ (crowdedObjects every).propertyRegistrations,
        registration.object.type ≠ BacnetObjectType.device := by
    intro registration isMember
    obtain ⟨property, -, rfl⟩ := List.mem_map.mp isMember
    exact show BacnetObjectType.analogValue ≠ _ by decide
  have started := run_startedServer noDevice
  obtain ⟨least, after, reads⟩ :=
    always (crowdedCalls every)
      (startedServer (crowdedObjects every))
      ⟨BacnetObjectType.analogValue, 1⟩ _ scriptedPeer 1000
      (ClientSystem.directSystem
        (EventRun.run BacnetServer.step {}
          (startedServer (crowdedObjects every)))) 0 true 0
      (by rw [started, registered])
      (by rw [started]; exact ⟨rfl, rfl⟩)
      (by rw [started]; rfl)
      (directRuntime_delivers scriptedPeer 1000 _)
      (ClientSystem.canCall_directSystem
        (by rw [started]; exact ⟨rfl, rfl⟩) 0)
  obtain ⟨result, -, reports⟩ := reads least (Nat.le_refl least)
  have advertised := reports.advertised
  have listed :
      (EventRun.run BacnetServer.step {}
          (startedServer (crowdedObjects every))).listedProperties
            ⟨BacnetObjectType.analogValue, 1⟩ =
        (crowdedObjects every).listedProperties
          ⟨BacnetObjectType.analogValue, 1⟩ := by
    rw [started, BacnetServer.listedProperties]
    exact if_neg
      (show (⟨BacnetObjectType.analogValue, 1⟩ : BacnetObjectId) ≠
          ⟨BacnetObjectType.device, 0⟩ by decide)
  rw [listed, length_listed_crowdedObjects distinct everything,
    length] at advertised
  exact absurd advertised (Nat.ne_of_lt result.advertised.toNat_lt)

end BacnetStack
