import BacnetStack.ServerCommandTable
import BacnetStack.ServerPropertyList
import BacnetStack.ServerReplyTotality

namespace BacnetStack

open EventRun

/-!
# Reads and writes of commandable objects

In runs of received packets and local operations the table of commands goes
on by itself, and what is read of a commandable object is what its entry of
the table says.
-/

/-- A value of a commandable object as it is read. -/
def CommandValue.read : CommandValue → BacnetValue
  | .binary value => binaryEnumeration value
  | .analog value => realValue value

/-- A slot as an entry of the Priority_Array. -/
def readCommand : Option CommandValue → BacnetValue
  | some value => value.read
  | none => { type := .null }

/-- What happens to the commandable objects of a running server. -/
inductive CommandStoreEvent where
  | poll (input : PollInput)
  | operate (object : BacnetObjectId) (operation : LocalOperation)

namespace BacnetServer

/-- The server goes on with one event. -/
def commandStep
    (server : BacnetServer) : CommandStoreEvent → BacnetServer
  | .poll input => (server.poll input).server
  | .operate object operation =>
      { server with objects := server.objects.operate object operation }

/-- The WriteProperty request of a packet that fits. -/
def writeRequest? (input : PollInput) :
    Option BacnetWritePropertyRequestHeader :=
  if input.packet.length ≤ kMaxDatagramSize then
    match parseWritePropertyRequest input.packet with
    | .parsed request => some request
    | _ => none
  else
    none

end BacnetServer

/-- The table goes on with one event. -/
def CommandTable.step
    (table : CommandTable) : CommandStoreEvent → CommandTable
  | .poll input =>
      ((BacnetServer.writeRequest? input).bind table.write).getD table
  | .operate object operation => table.operate object operation

namespace BacnetServer

variable {server : BacnetServer} {input : PollInput}

theorem writeRequest?_eq_some_iff
    {request : BacnetWritePropertyRequestHeader}
    (ready : server.Ready) :
    writeRequest? input = some request ↔
      server.ReceivesWrite input request := by
  unfold writeRequest?
  constructor
  · intro found
    split at found
    · rename_i fits
      split at found
      · rename_i parsed
        exact ⟨ready, fits, by rw [parsed, Option.some.inj found]⟩
      · cases found
    · cases found
  · intro received
    rw [if_pos received.fits, received.parsed]

/-- Only a received write can change the objects. -/
theorem poll_objects
    (ready : server.Ready)
    (noWrite : writeRequest? input = none) :
    (server.poll input).server.objects = server.objects := by
  by_cases idle : input.packet = []
  · rw [server.poll_idle ready idle, processCovSubscriptions_objects]
  · by_cases fits : input.packet.length ≤ kMaxDatagramSize
    · have dispatched := @dispatch_poll server input idle
      generalize server.poll input = output at dispatched
      cases dispatched with
      | quiet result => rfl
      | completed index answered => rfl
      | answered reply sent => rw [sendReply_server]
      | written request parsed =>
          rw [(writeRequest?_eq_some_iff ready).mpr ⟨ready, fits, parsed⟩]
            at noWrite
          cases noWrite
      | subscribed request parsed =>
          exact (server.handleSubscribeCov_reply input request).1
    · have long : kMaxDatagramSize < input.packet.length :=
        Nat.lt_of_not_le fits
      simp [poll, ready.running, ready.transport, idle, long, silent]

end BacnetServer

/-- The properties that show the commands of an object. -/
def isCommandProperty (property : BacnetPropertyId) : Prop :=
  property ∈ [.presentValue, .priorityArray, .relinquishDefault]

namespace ServerObjects

/-- Commands are read of the objects that hold them, and of these alone. -/
structure CommandsReadable (objects : ServerObjects) : Prop where
  idle : objects.Idle
  alone :
    ∀ instance_,
      (objects.commandTable
        ⟨BacnetObjectType.analogValue, instance_⟩).isSome = true →
      objects.findAnalogValue instance_ = none
  unregistered :
    ∀ object property,
      (objects.commandTable object).isSome = true →
      isCommandProperty property →
      objects.findPropertyRegistration object property = none
  notOptional :
    ∀ object property,
      (objects.commandTable object).isSome = true →
      isCommandProperty property →
      readStoredProperty (objects.optionalProperties object) property = none

variable {objects : ServerObjects}

/-- A change of the commands leaves them readable. -/
theorem Becomes.commandsReadable
    {next : ServerObjects}
    {object : BacnetObjectId}
    {change : Commands → Commands}
    (becomes : Becomes objects next object change)
    (readable : objects.CommandsReadable) :
    next.CommandsReadable := by
  have same
      (other : BacnetObjectId)
      (isCommandable : (next.commandTable other).isSome = true) :
      (objects.commandTable other).isSome = true := by
    rw [becomes.table, CommandTable.update, Function.update_apply]
      at isCommandable
    split at isCommandable
    · rename_i isObject
      rw [Option.isSome_map] at isCommandable
      rwa [isObject]
    · exact isCommandable
  refine ⟨becomes.idle readable.idle, ?_, ?_, ?_⟩
  · intro instance_ isCommandable
    rw [findAnalogValue, becomes.analogValues]
    exact readable.alone instance_ (same _ isCommandable)
  · intro other property isCommandable isCommand
    rw [findPropertyRegistration, becomes.registrations]
    exact readable.unregistered other property (same _ isCommandable)
      isCommand
  · intro other property isCommandable isCommand
    rw [becomes.optional]
    exact readable.notOptional other property (same _ isCommandable)
      isCommand

/-- The optional properties of a Binary Output are none of these. -/
theorem notOptional_of_propertiesValid
    (valid : objects.PropertiesValid)
    {object : BacnetObjectId}
    (isCommandable : (objects.commandTable object).isSome = true)
    {property : BacnetPropertyId}
    (isCommand : isCommandProperty property) :
    readStoredProperty (objects.optionalProperties object) property =
      none := by
  have without : property ∉ objects.optionalIds object := by
    rw [commandTable, Option.isSome_map, findWriteTarget] at isCommandable
    by_cases isBinaryOutput : object.type = BacnetObjectType.binaryOutput
    · unfold optionalIds optionalProperties
      dsimp only
      rw [isBinaryOutput, if_neg (by decide), if_neg (by decide),
        if_pos rfl]
      cases found : objects.objectCentricBinaryOutputs.find?
          fun source => source.object.instance_ == object.instance_ with
      | none => exact List.not_mem_nil
      | some source =>
          intro isMember
          obtain ⟨slot, isSlot, rfl⟩ := List.mem_map.mp isMember
          have supported :=
            (valid.binaryOutputs source
              (List.mem_of_find?_eq_some found)).supported slot isSlot
          simp only [isCommandProperty, List.mem_cons, List.not_mem_nil,
            or_false] at isCommand
          rcases isCommand with same | same | same
          all_goals
            rw [same] at supported
            cases supported
    · have noAnalogInput : object.type ≠ BacnetObjectType.analogInput := by
        intro isAnalogInput
        rw [isAnalogInput] at isCommandable
        cases isCommandable
      have noBinaryInput : object.type ≠ BacnetObjectType.binaryInput := by
        intro isBinaryInput
        rw [isBinaryInput] at isCommandable
        cases isCommandable
      rw [optionalIds, objects.optionalProperties_eq_nil noAnalogInput
        noBinaryInput isBinaryOutput]
      exact List.not_mem_nil
  have missing :
      ((objects.optionalProperties object).find? fun slot =>
        slot.property == property) = none := by
    rw [List.find?_eq_none]
    intro slot isSlot same
    rw [beq_iff_eq] at same
    rw [← same] at without
    exact without (List.mem_map_of_mem isSlot)
  rw [readStoredProperty, missing]
  rfl

/-- Registered objects have readable commands, unless they are overridden. -/
theorem commandsReadable_of_registered
    (kinds : objects.DistinctKinds)
    (valid : objects.PropertiesValid)
    (idle : objects.Idle)
    (unregistered :
      ∀ registration ∈ objects.propertyRegistrations,
        (objects.findWriteTarget registration.object).isSome = true →
        ¬isCommandProperty registration.property) :
    objects.CommandsReadable := by
  refine ⟨idle, ?_, ?_, fun object property isCommandable isCommand =>
    notOptional_of_propertiesValid valid isCommandable isCommand⟩
  · intro instance_ isCommandable
    by_contra both
    obtain ⟨value, found⟩ := Option.ne_none_iff_exists'.mp both
    have noCommandable :=
      BacnetServer.analogValue_of_one_form kinds found
    rw [commandTable, Option.isSome_map] at isCommandable
    change ((objects.findCommandableAnalogValue instance_).map
      _).isSome = true at isCommandable
    rw [noCommandable] at isCommandable
    cases isCommandable
  · intro object property isCommandable isCommand
    rw [commandTable, Option.isSome_map] at isCommandable
    rw [findPropertyRegistration, List.find?_eq_none]
    intro registration isMember matched
    rw [Bool.and_eq_true, beq_iff_eq, beq_iff_eq] at matched
    rw [← matched.1] at isCommandable
    rw [← matched.2] at isCommand
    exact unregistered registration isMember isCommandable isCommand

end ServerObjects

namespace BacnetServer

variable {server : BacnetServer} {object : BacnetObjectId}

/-- What the properties of an object with these commands hold. -/
structure CommandContent
    (server : BacnetServer)
    (object : BacnetObjectId)
    (commands : Commands) : Prop where
  presentValue :
    server.propertyContent object .presentValue =
      .ok (.single commands.value.read)
  relinquishDefault :
    server.propertyContent object .relinquishDefault =
      .ok (.single commands.default.read)
  priorityArray :
    ∃ entries : List BacnetValue,
      server.propertyContent object .priorityArray =
        .ok (.array (entries.map some)) ∧
      entries.map applicationOctets =
        (commands.entries.map readCommand).map applicationOctets

/-- Nothing stands before the value of a command property. -/
theorem readProperty_command
    (readable : server.objects.CommandsReadable)
    (isCommandable : (server.objects.commandTable object).isSome = true)
    {property : BacnetPropertyId}
    (isCommand : isCommandProperty property)
    (own : Option BacnetValue) :
    server.objects.readProperty object property own = own := by
  rw [ServerObjects.readProperty,
    readable.notOptional object property isCommandable isCommand,
    readable.unregistered object property isCommandable isCommand]

/-- The entries of sixteen slots in their order. -/
theorem map_range_slots
    {valueAt : Nat → Option BacnetValue}
    {entry : Fin kSlotCount → BacnetValue}
    (slots : ∀ index : Fin kSlotCount, valueAt index = some (entry index)) :
    (List.range kSlotCount).map valueAt =
      ((List.finRange kSlotCount).map entry).map some := by
  rw [← List.map_coe_finRange_eq_range, List.map_map, List.map_map]
  exact List.map_congr_left fun index _ => slots index

/-- The content of an object from what is read of it. -/
theorem commandContent_of_reads
    {commands : Commands}
    (known : (server.lookupObject object).isUnknown = false)
    (noDevice : (server.lookupObject object).isDevice = false)
    (noMultiState : (server.lookupObject object).multiStateValue = none)
    (presentValue :
      server.readFoundProperty (server.lookupObject object) .presentValue =
        some commands.value.read)
    (relinquishDefault :
      server.readFoundProperty (server.lookupObject object)
          .relinquishDefault =
        some commands.default.read)
    {valueAt : Nat → Option BacnetValue}
    (entries :
      priorityArrayEntries (server.lookupObject object) = some valueAt)
    {entry : Fin kSlotCount → BacnetValue}
    (slots : ∀ index : Fin kSlotCount, valueAt index = some (entry index))
    (encoded :
      ∀ index,
        applicationOctets (entry index) =
          applicationOctets (readCommand (commands.command index))) :
    server.CommandContent object commands := by
  have valid :
      ((server.lookupObject object).multiStateValue.any fun value =>
        !validMultiStateValueConfiguration value) = false := by
    rw [noMultiState]
    rfl
  refine ⟨?_, ?_, (List.finRange kSlotCount).map entry, ?_, ?_⟩
  · have content :=
      @propertyContent_of_single server
        ⟨object, .presentValue, kBacnetNoArrayIndex⟩ known valid
        (by simp [listAnswer, noDevice]) (by simp [noDevice])
    dsimp only at content
    rw [content, noDevice]
    simp [presentValue]
  · have content :=
      @propertyContent_of_single server
        ⟨object, .relinquishDefault, kBacnetNoArrayIndex⟩ known valid
        (by simp [listAnswer, noDevice]) (by simp [noDevice])
    dsimp only at content
    rw [content, noDevice]
    simp [relinquishDefault]
  · have content :=
      @propertyContent_of_list server
        ⟨object, .priorityArray, kBacnetNoArrayIndex⟩ kSlotCount valueAt
        known valid (by simp [listAnswer, noDevice, entries])
    dsimp only at content
    rw [content, map_range_slots slots]
  · rw [PriorityMap.entries, List.map_map, List.map_map, List.map_map]
    exact List.map_congr_left fun index _ => encoded index

/-- A Boolean slot is encoded as its command. -/
theorem binaryPriorityEntry_slot
    (priority : BacnetCommandPriority Bool)
    (index : Fin kSlotCount) :
    ∃ entry,
      binaryPriorityEntry priority index = some entry ∧
      applicationOctets entry =
        applicationOctets
          (readCommand ((priority.commands .binary).command index)) := by
  rw [binaryPriorityEntry, dif_pos index.isLt]
  refine ⟨_, rfl, ?_⟩
  simp only [BacnetCommandPriority.commands, BacnetCommandPriority.entry,
    Fin.eta]
  cases priority.occupied index <;> rfl

/-- A Real slot is read as its command. -/
theorem analogPriorityEntry_slot
    (priority : BacnetCommandPriority Binary32)
    (index : Fin kSlotCount) :
    analogPriorityEntry priority index =
      some (readCommand ((priority.commands .analog).command index)) := by
  rw [analogPriorityEntry, dif_pos index.isLt]
  simp only [BacnetCommandPriority.commands, BacnetCommandPriority.entry,
    Fin.eta]
  cases priority.occupied index <;> rfl

/-- Every commandable object is read as its commands. -/
theorem commandContent
    (readable : server.objects.CommandsReadable)
    {commands : Commands}
    (held : server.objects.commandTable object = some commands) :
    server.CommandContent object commands := by
  obtain ⟨target, found, rfl⟩ := Option.map_eq_some_iff.mp held
  have isCommandable :
      (server.objects.commandTable object).isSome = true := by
    rw [held]
    rfl
  have has := ServerObjects.has_of_findWriteTarget found
  have plain :=
    @readProperty_command server object readable isCommandable
  cases target with
  | binaryOutput output =>
      obtain ⟨rfl, isOutput⟩ := has
      have shape : server.lookupObject output.objectId = _ :=
        lookup_binaryOutput isOutput
      choose entry slots encoded using
        binaryPriorityEntry_slot output.priority
      refine @commandContent_of_reads server output.objectId _ ?_ ?_ ?_ ?_
        ?_ (binaryPriorityEntry output.priority) ?_ entry slots encoded
      · rw [shape]
        rfl
      · rw [shape]
      · rw [shape]
      · rw [WriteTarget.commands, BacnetCommandPriority.value_commands]
        exact (read_binaryOutput isOutput _).trans
          (plain (by simp [isCommandProperty]) _)
      · exact (read_binaryOutput isOutput _).trans
          (plain (by simp [isCommandProperty]) _)
      · rw [shape]
        rfl
  | binaryValue value =>
      obtain ⟨rfl, isValue⟩ := has
      have shape := lookup_binaryValue isValue
      choose entry slots encoded using
        binaryPriorityEntry_slot value.priority
      refine @commandContent_of_reads server _ _ ?_ ?_ ?_ ?_
        ?_ (binaryPriorityEntry value.priority) ?_ entry slots encoded
      · rw [shape]
        rfl
      · rw [shape]
      · rw [shape]
      · rw [WriteTarget.commands, BacnetCommandPriority.value_commands]
        exact (read_binaryValue isValue _).trans
          (plain (by simp [isCommandProperty]) _)
      · exact (read_binaryValue isValue _).trans
          (plain (by simp [isCommandProperty]) _)
      · rw [shape]
        rfl
  | commandableAnalogValue value =>
      obtain ⟨rfl, isValue⟩ := has
      have alone := readable.alone _ isCommandable
      have shape : server.lookupObject value.objectId = _ :=
        lookup_commandableAnalogValue isValue alone
      refine @commandContent_of_reads server value.objectId _ ?_ ?_ ?_ ?_
        ?_ (analogPriorityEntry value.priority) ?_ _
        (analogPriorityEntry_slot value.priority) fun _ => rfl
      · rw [shape]
        rfl
      · rw [shape]
      · rw [shape]
      · rw [WriteTarget.commands, BacnetCommandPriority.value_commands]
        exact (read_commandableAnalogValue isValue alone _).trans
          (plain (by simp [isCommandProperty]) _)
      · exact (read_commandableAnalogValue isValue alone _).trans
          (plain (by simp [isCommandProperty]) _)
      · rw [shape]
        rfl
  | analogOutput output =>
      obtain ⟨rfl, isOutput⟩ := has
      have shape : server.lookupObject output.objectId = _ :=
        lookup_analogOutput isOutput
      refine @commandContent_of_reads server output.objectId _ ?_ ?_ ?_ ?_
        ?_ (analogPriorityEntry output.priority) ?_ _
        (analogPriorityEntry_slot output.priority) fun _ => rfl
      · rw [shape]
        rfl
      · rw [shape]
      · rw [shape]
      · rw [WriteTarget.commands, BacnetCommandPriority.value_commands]
        exact (read_analogOutput isOutput _).trans
          (plain (by simp [isCommandProperty]) _)
      · exact (read_analogOutput isOutput _).trans
          (plain (by simp [isCommandProperty]) _)
      · rw [shape]
        rfl

/-! What a peer is answered. -/

end BacnetServer

/--
What a read of the commands of an object returns; `none` refuses the index.
Only the Priority_Array has entries, and the last index stands for no index.
-/
def commandAnswer
    (commands : Commands)
    (request : BacnetPropertyRequest) : Option (List BacnetValue) :=
  if request.property = .priorityArray then
    if request.arrayIndex = kBacnetNoArrayIndex then
      some (commands.entries.map readCommand)
    else if request.arrayIndex = 0 then
      some [unsignedValue (UInt32.ofNat kSlotCount)]
    else
      commands.entries[request.arrayIndex.toNat - 1]?.map fun entry =>
        [readCommand entry]
  else if request.arrayIndex = kBacnetNoArrayIndex then
    if request.property = .presentValue then
      some [commands.value.read]
    else
      some [commands.default.read]
  else
    none

/-- A command is encoded in at most five octets. -/
theorem readCommand_short (command : Option CommandValue) :
    ∃ size,
      encodedSize (readCommand command) = some size ∧ size ≤ 5 := by
  cases command with
  | none => exact ⟨1, rfl, by decide⟩
  | some value =>
      cases value with
      | binary value =>
          exact ⟨_, rfl, Nat.succ_le_succ (unsignedLength_le _)⟩
      | analog value => exact ⟨5, rfl, le_rfl⟩

/-- Few short values are not too long for one packet. -/
theorem encodedSizes_short
    {values : List BacnetValue}
    (short :
      ∀ value ∈ values,
        ∃ size, encodedSize value = some size ∧ size ≤ 5) :
    ∃ sizes,
      encodedSizes (values.map some) = some sizes ∧
      sizes.sum ≤ 5 * values.length := by
  induction values with
  | nil => exact ⟨[], rfl, le_rfl⟩
  | cons value rest inductionHypothesis =>
      obtain ⟨size, isSize, small⟩ := short value List.mem_cons_self
      obtain ⟨sizes, areSizes, few⟩ := inductionHypothesis
        fun other isMember => short other (List.mem_cons_of_mem value isMember)
      refine ⟨size :: sizes, ?_, ?_⟩
      · rw [encodedSizes] at areSizes
        rw [encodedSizes, List.map_cons, List.mapM_cons, areSizes,
          Option.bind_some, isSize]
        rfl
      · rw [List.sum_cons, List.length_cons]
        omega

/-- An answer is at most sixteen commands. -/
theorem commandAnswer_short
    {commands : Commands}
    {request : BacnetPropertyRequest}
    {values : List BacnetValue}
    (answers : commandAnswer commands request = some values) :
    (∀ value ∈ values,
      ∃ size, encodedSize value = some size ∧ size ≤ 5) ∧
    values.length ≤ kSlotCount := by
  have alone
      {value : BacnetValue}
      (short : ∃ size, encodedSize value = some size ∧ size ≤ 5) :
      (∀ other ∈ [value],
        ∃ size, encodedSize other = some size ∧ size ≤ 5) ∧
      [value].length ≤ kSlotCount := by
    refine ⟨fun other isMember => ?_, Nat.succ_le_succ (Nat.zero_le _)⟩
    rwa [List.mem_singleton.mp isMember]
  unfold commandAnswer at answers
  split at answers
  · split at answers
    · cases answers
      refine ⟨fun value isMember => ?_, ?_⟩
      · obtain ⟨command, _, rfl⟩ := List.mem_map.mp isMember
        exact readCommand_short command
      · rw [List.length_map, PriorityMap.entries, List.length_map,
          List.length_finRange]
    · split at answers
      · cases answers
        exact alone ⟨_, rfl, Nat.succ_le_succ (unsignedLength_le _)⟩
      · obtain ⟨entry, _, rfl⟩ := Option.map_eq_some_iff.mp answers
        exact alone (readCommand_short entry)
  · split at answers
    · split at answers
      · cases answers
        exact alone (readCommand_short (some commands.value))
      · cases answers
        exact alone (readCommand_short (some commands.default))
    · cases answers

namespace BacnetServer

variable
  {server : BacnetServer}
  {request : BacnetReadPropertyRequestHeader}

/-- The reply to a read: these values, or the error of a wrong index. -/
def AnswersRead
    (server : BacnetServer)
    (input : PollInput)
    (request : BacnetReadPropertyRequestHeader)
    (answer : Option (List BacnetValue)) : Prop :=
  match answer with
  | some values => server.AcknowledgesRead input request values
  | none => server.RefusesRead input request invalidArrayIndexError

/-- Few short values are acknowledged. -/
theorem acknowledgesRead_short
    (input : PollInput)
    (addressable : Addressable request.request.object)
    {available values : List BacnetValue}
    (selects :
      server.selected request.request = some (available.map some))
    (sameEncoding :
      available.map applicationOctets = values.map applicationOctets)
    (short :
      ∀ value ∈ values,
        ∃ size, encodedSize value = some size ∧ size ≤ 5)
    (few : values.length ≤ kSlotCount) :
    server.AcknowledgesRead input request values := by
  have prefixLength := length_readAckPrefix_le request
  obtain ⟨sizes, areSizes, sum⟩ := encodedSizes_short short
  have size : kMaxDatagramSize = 1476 := rfl
  have slots : kSlotCount = 16 := rfl
  obtain ⟨packet, built⟩ := Option.isSome_iff_exists.mp
    (@acknowledgement_isSome_iff request (values.map some) |>.mpr
      ⟨sizes, areSizes, by omega⟩)
  obtain ⟨encoded, areEncoded, fits, rfl⟩ :=
    acknowledgement_eq_some_iff.mp built
  rw [mapM_some_bind] at areEncoded
  have sameValues :
      available.mapM applicationOctets =
        values.mapM applicationOctets := by
    have asLists
        (list : List BacnetValue) :
        list.mapM applicationOctets =
          (list.map applicationOctets).mapM id := by
      rw [List.mapM_map]
      rfl
    rw [asLists, asLists, sameEncoding]
  refine ⟨encoded, areEncoded, ?_⟩
  rw [datagram_of_selected input addressable selects,
    acknowledgement_eq_some_iff.mpr ⟨encoded, ?_, fits, rfl⟩]
  · rfl
  · rw [mapM_some_bind, sameValues, areEncoded]

/-- A property with one value is only read as a whole. -/
theorem selected_single
    {value : BacnetValue}
    (found :
      server.propertyContent request.request.object
          request.request.property =
        .ok (.single value)) :
    server.selected request.request =
      if request.request.arrayIndex = kBacnetNoArrayIndex then
        some ([value].map some)
      else
        none := by
  rw [selected_of_content found, PropertyContent.select]
  rfl

/-- An answer and what is selected have the same encodings. -/
theorem CommandContent.selected
    {commands : Commands}
    (content :
      server.CommandContent request.request.object commands)
    (isCommand : isCommandProperty request.request.property) :
    (∃ available values : List BacnetValue,
      commandAnswer commands request.request = some values ∧
      server.selected request.request = some (available.map some) ∧
      available.map applicationOctets = values.map applicationOctets) ∨
    (commandAnswer commands request.request = none ∧
      server.selected request.request = none ∧
      server.refusal request.request = invalidArrayIndexError) := by
  simp only [isCommandProperty, List.mem_cons, List.not_mem_nil, or_false]
    at isCommand
  unfold commandAnswer
  rcases isCommand with isProperty | isProperty | isProperty
  · have found := content.presentValue
    rw [← isProperty] at found
    rw [selected_single found, refusal_of_content found]
    by_cases whole : request.request.arrayIndex = kBacnetNoArrayIndex
    · exact .inl ⟨[commands.value.read], _, by simp [isProperty, whole],
        if_pos whole, rfl⟩
    · exact .inr ⟨by simp [isProperty, whole], if_neg whole, rfl⟩
  · obtain ⟨available, found, sameEncoding⟩ := content.priorityArray
    have length := congrArg List.length sameEncoding
    simp only [List.length_map] at length
    rw [← isProperty] at found
    rw [selected_of_content found, refusal_of_content found,
      PropertyContent.select]
    by_cases whole : request.request.arrayIndex = kBacnetNoArrayIndex
    · exact .inl ⟨available, _, by simp [isProperty, whole],
        if_pos whole, sameEncoding⟩
    by_cases first : request.request.arrayIndex = 0
    · refine .inl ⟨[unsignedValue (UInt32.ofNat kSlotCount)], _,
        by rw [if_pos isProperty, if_neg whole, if_pos first], ?_, rfl⟩
      rw [if_neg whole, if_pos first, List.length_map, length,
        PriorityMap.entries, List.length_map, List.length_finRange]
      rfl
    · rw [if_pos isProperty, if_neg whole, if_neg first, if_neg whole,
        if_neg first, List.getElem?_map]
      have sameEntry := congrArg
        (fun octets => octets[request.request.arrayIndex.toNat - 1]?)
        sameEncoding
      simp only [List.getElem?_map] at sameEntry
      cases entry :
          commands.entries[request.request.arrayIndex.toNat - 1]? with
      | none =>
          rw [entry, Option.map_none, Option.map_none,
            Option.map_eq_none_iff] at sameEntry
          exact .inr ⟨rfl, by rw [sameEntry]; rfl, rfl⟩
      | some command =>
          rw [entry, Option.map_some, Option.map_some,
            Option.map_eq_some_iff] at sameEntry
          obtain ⟨value, isValue, sameOctets⟩ := sameEntry
          exact .inl ⟨[value], _, rfl, by rw [isValue]; rfl,
            congrArg (fun octets => [octets]) sameOctets⟩
  · have found := content.relinquishDefault
    rw [← isProperty] at found
    rw [selected_single found, refusal_of_content found]
    by_cases whole : request.request.arrayIndex = kBacnetNoArrayIndex
    · exact .inl ⟨[commands.default.read], _, by simp [isProperty, whole],
        if_pos whole, rfl⟩
    · exact .inr ⟨by simp [isProperty, whole], if_neg whole, rfl⟩

/-- Reads of an object with these contents return its commands. -/
theorem CommandContent.answersRead
    {commands : Commands}
    (content :
      server.CommandContent request.request.object commands)
    (input : PollInput)
    (addressable : Addressable request.request.object)
    (isCommand : isCommandProperty request.request.property) :
    server.AnswersRead input request
      (commandAnswer commands request.request) := by
  rcases content.selected isCommand
    with ⟨available, values, answers, selects, sameEncoding⟩ |
      ⟨answers, nothing, refusal⟩
  · obtain ⟨short, few⟩ := commandAnswer_short answers
    rw [answers]
    exact acknowledgesRead_short input addressable selects sameEncoding
      short few
  · rw [answers]
    exact (refusesRead_iff input addressable (by decide)).mpr
      ⟨nothing, refusal⟩

end BacnetServer

/--
What an acknowledged write does: the other objects and the default stay, and
so does every slot but the one that a write of Present_Value addresses.
-/
structure ChangesOneSlot
    (table next : CommandTable)
    (request : BacnetWritePropertyRequestHeader) : Prop where
  objects :
    ∀ object, object ≠ request.request.object →
      next object = table object
  slots :
    ∃ before after,
      table request.request.object = some before ∧
      next request.request.object = some after ∧
      after.default = before.default ∧
      ∀ rank : Fin kSlotCount,
        if request.request.property = .presentValue ∧
            rank.val + 1 =
              (if request.hasPriority then
                request.priority
              else
                16).toNat then
          givenCommand before request.value = some (after.command rank)
        else
          after.command rank = before.command rank

/-- The slot with a number is the one before it in the array. -/
theorem slotIndex?_val
    {priorityValue : UInt8}
    {rank : Fin kSlotCount}
    (addressed :
      BacnetCommandPriority.slotIndex? priorityValue = some rank) :
    rank.val + 1 = priorityValue.toNat := by
  unfold BacnetCommandPriority.slotIndex? at addressed
  split at addressed
  · rename_i inside
    have positive : priorityValue.toNat ≠ 0 := fun zero =>
      inside.1 (UInt8.toNat_inj.mp zero)
    rw [← Option.some.inj addressed]
    dsimp only
    omega
  · cases addressed

/-- An accepted write changes the addressed slot at most. -/
theorem write_changesOneSlot
    {table next : CommandTable}
    {request : BacnetWritePropertyRequestHeader}
    (accepted : table.write request = some next) :
    ChangesOneSlot table next request := by
  unfold CommandTable.write at accepted
  simp only [Option.bind_eq_bind, Option.bind_eq_some_iff] at accepted
  obtain ⟨commands, isObject, accepted⟩ := accepted
  split at accepted
  · cases accepted
  · split at accepted
    · rename_i isPresentValue
      simp only [Option.bind_eq_some_iff] at accepted
      obtain ⟨rank, addressed, entry, gives, accepted⟩ := accepted
      obtain rfl := Option.some.inj accepted
      refine ⟨fun object another => Function.update_of_ne another _ _,
        commands, commands.assign rank entry, isObject, ?_, rfl,
        fun other => ?_⟩
      · rw [CommandTable.update, Function.update_self, isObject]
        rfl
      · rw [← slotIndex?_val addressed]
        dsimp only [PriorityMap.assign]
        by_cases isRank : other = rank
        · rw [if_pos ⟨isPresentValue, by rw [isRank]⟩, gives, isRank,
            Function.update_self]
        · rw [if_neg, Function.update_of_ne isRank]
          exact fun both => isRank (Fin.ext (Nat.succ_inj.mp both.2))
    · rename_i otherProperty
      split at accepted
      · obtain rfl := Option.some.inj accepted
        refine ⟨fun _ _ => rfl, commands, commands, isObject, isObject, rfl,
          fun rank => ?_⟩
        rw [if_neg fun both => otherProperty both.1]
      · cases accepted

namespace BacnetServer

/--
The server holds the commands of a table: reads return them, a write the
table accepts is acknowledged, any other one is answered with an error and
changes no object, and nothing else that is received changes one.
-/
structure HoldsCommands
    (server : BacnetServer)
    (table : CommandTable) : Prop where
  held : server.objects.commandTable = table
  reads :
    ∀ input request,
      server.ReceivesRead input request →
      isCommandProperty request.request.property →
      ∀ commands,
        table request.request.object = some commands →
        server.poll input = server.handleReadProperty input request ∧
        server.AnswersRead input request
          (commandAnswer commands request.request)
  writes :
    ∀ input request,
      server.ReceivesWrite input request →
      (∃ next,
        table.write request = some next ∧
        ChangesOneSlot table next request ∧
        (server.poll input).server.objects.commandTable = next ∧
        (server.poll input).datagram =
          some ⟨input.source,
            simpleAckPacket request.invokeId kServiceWriteProperty⟩) ∨
      (table.write request = none ∧
        (server.poll input).server.objects = server.objects ∧
        ∃ error : BacnetError,
          (server.poll input).datagram =
            some ⟨input.source,
              serviceErrorPacket request.invokeId kServiceWriteProperty
                error.1 error.2⟩)
  others :
    ∀ input,
      (∀ request, ¬server.ReceivesWrite input request) →
      (server.poll input).server.objects = server.objects

/-- What holds in every state of a run. -/
structure RefinesTable
    (server : BacnetServer)
    (table : CommandTable) : Prop where
  ready : server.Ready
  readable : server.objects.CommandsReadable
  held : server.objects.commandTable = table

variable {server : BacnetServer} {table : CommandTable}

/-- A received write goes through in the server as it does in the table. -/
theorem poll_write_refines
    (idle : server.objects.Idle)
    {input : PollInput}
    {request : BacnetWritePropertyRequestHeader}
    (received : server.ReceivesWrite input request) :
    (∃ change,
      server.objects.commandTable.write request =
        some (server.objects.commandTable.update request.request.object
          change) ∧
      server.objects.Becomes (server.poll input).server.objects
        request.request.object change ∧
      (server.poll input).datagram =
        some ⟨input.source,
          simpleAckPacket request.invokeId kServiceWriteProperty⟩) ∨
    (server.objects.commandTable.write request = none ∧
      (server.poll input).server.objects = server.objects ∧
      ∃ error : BacnetError,
        (server.poll input).datagram =
          some ⟨input.source,
            serviceErrorPacket request.invokeId kServiceWriteProperty
              error.1 error.2⟩) := by
  rw [poll_write received]
  rcases @handleWriteProperty_cases server input request
    with ⟨effect, performed, next, acknowledged⟩ |
      ⟨error, refused, same, answered⟩
  · rcases ServerObjects.writeProperty_refines idle request
      with ⟨_, change, sameEffect, becomes, accepted⟩ |
        ⟨_, impossible, _⟩
    · rw [performed] at sameEffect
      obtain rfl := Except.ok.inj sameEffect
      exact .inl ⟨change, accepted, by rwa [next], acknowledged⟩
    · rw [performed] at impossible
      cases impossible
  · rcases ServerObjects.writeProperty_refines idle request
      with ⟨_, _, impossible, _, _⟩ | ⟨_, _, unaccepted⟩
    · rw [refused] at impossible
      cases impossible
    · exact .inr ⟨unaccepted, by rw [same], error, answered⟩

/-- One event keeps the server and the table together. -/
theorem RefinesTable.step
    (refines : server.RefinesTable table)
    (event : CommandStoreEvent) :
    (server.commandStep event).RefinesTable (table.step event) := by
  obtain ⟨ready, readable, rfl⟩ := refines
  cases event with
  | poll input =>
      have stillReady : (server.poll input).server.Ready := by
        rw [server.poll_configuration input]
        exact ⟨ready.running, ready.transport⟩
      cases received : writeRequest? input with
      | none =>
          have same := poll_objects ready received
          refine ⟨stillReady, ?_, ?_⟩
          · rwa [commandStep, same]
          · rw [commandStep, same, CommandTable.step, received]
            rfl
      | some request =>
          rcases poll_write_refines readable.idle
              ((writeRequest?_eq_some_iff ready).mp received)
            with ⟨change, accepted, becomes, _⟩ | ⟨refused, same, _⟩
          · refine ⟨stillReady, becomes.commandsReadable readable, ?_⟩
            rw [commandStep, becomes.table, CommandTable.step, received,
              Option.bind_some, accepted, Option.getD_some]
          · refine ⟨stillReady, ?_, ?_⟩
            · rwa [commandStep, same]
            · rw [commandStep, same, CommandTable.step, received,
                Option.bind_some, refused, Option.getD_none]
  | operate object operation =>
      rcases ServerObjects.operate_refines readable.idle object operation
        with ⟨same, sameTable⟩ | ⟨change, becomes, changed⟩
      · refine ⟨⟨ready.running, ready.transport⟩, ?_, ?_⟩
        · rwa [commandStep, same]
        · rw [commandStep, same, CommandTable.step, sameTable]
      · refine ⟨⟨ready.running, ready.transport⟩,
          becomes.commandsReadable readable, ?_⟩
        rw [commandStep, becomes.table, CommandTable.step, changed]

/-- Runs keep the server and the table together. -/
theorem RefinesTable.run
    (refines : server.RefinesTable table)
    (events : List CommandStoreEvent) :
    (EventRun.run commandStep server events).RefinesTable
      (EventRun.run CommandTable.step table events) := by
  induction events generalizing server table with
  | nil => exact refines
  | cons event rest inductionHypothesis =>
      exact inductionHypothesis (refines.step event)

/-- A server that goes on with a table shows it to everyone. -/
theorem RefinesTable.holdsCommands
    (refines : server.RefinesTable table) :
    server.HoldsCommands table := by
  obtain ⟨ready, readable, rfl⟩ := refines
  refine ⟨rfl, ?_, ?_, ?_⟩
  · intro input request received isCommand commands held
    exact ⟨poll_read received,
      (commandContent readable held).answersRead input
        received.addressable isCommand⟩
  · intro input request received
    rcases poll_write_refines readable.idle received
      with ⟨change, accepted, becomes, acknowledged⟩ | refused
    · exact .inl ⟨_, accepted, write_changesOneSlot accepted,
        becomes.table, acknowledged⟩
    · exact .inr refused
  · intro input noWrite
    refine poll_objects ready ?_
    rw [Option.eq_none_iff_forall_ne_some]
    exact fun request isWrite =>
      noWrite request ((writeRequest?_eq_some_iff ready).mp isWrite)

/--
Whatever is registered, received and done locally, the server holds the
commands of the table that went through the same accepted operations.
-/
theorem commands_refine
    (server : BacnetServer)
    (ready : server.Ready)
    (calls : List RegistrationCall)
    (registered :
      server.objects = EventRun.run ServerObjects.register {} calls)
    (idle : server.objects.Idle)
    (unregistered :
      ∀ registration ∈ server.objects.propertyRegistrations,
        (server.objects.findWriteTarget
          registration.object).isSome = true →
        ¬isCommandProperty registration.property)
    (events : List CommandStoreEvent) :
    (EventRun.run commandStep server events).HoldsCommands
      (EventRun.run CommandTable.step server.objects.commandTable
        events) := by
  have kinds := ServerObjects.run_distinctKinds calls
  have valid := ServerObjects.run_propertiesValid calls
  rw [← registered] at kinds valid
  have readable :=
    ServerObjects.commandsReadable_of_registered kinds valid idle
      unregistered
  exact (RefinesTable.run ⟨ready, readable, rfl⟩ events).holdsCommands

/-- A server with one Analog Output. -/
def analogOutputCalls : List RegistrationCall :=
  [.setAnalogOutputs (some [⟨{ instance_ := 1, objectName := [79] }, true⟩])]

/-- Write NULL to the Present_Value of the output, without a priority. -/
def releaseOutput : List UInt8 :=
  (buildWritePropertyRequest 64 ⟨BacnetObjectType.analogOutput, 1⟩
    .presentValue { type := .null } {} 7).getD []

/-- A local command is released again by a remote write. -/
def analogOutputEvents : List CommandStoreEvent :=
  [.operate ⟨BacnetObjectType.analogOutput, 1⟩
      (.applyPriorityValue (.analog ⟨0x40490FDB⟩) 16 false),
    .poll { packet := releaseOutput }]

/-- The server holds the commands of its output. -/
theorem analogOutput_commands_refine :
    (EventRun.run commandStep
        (EventRun.run BacnetServer.step {}
          (startedServer
            (EventRun.run ServerObjects.register {} analogOutputCalls)))
        analogOutputEvents).HoldsCommands
      (EventRun.run CommandTable.step
        (EventRun.run BacnetServer.step {}
          (startedServer
            (EventRun.run ServerObjects.register {}
              analogOutputCalls))).objects.commandTable
        analogOutputEvents) := by
  refine commands_refine _ ⟨rfl, rfl⟩ analogOutputCalls rfl ?_ ?_ _
  · intro object target found
    have has := ServerObjects.has_of_findWriteTarget found
    cases target with
    | binaryOutput output => cases has.2
    | binaryValue value => cases has.2
    | commandableAnalogValue value => cases has.2
    | analogOutput output =>
        obtain rfl := List.mem_singleton.mp (List.mem_of_find?_eq_some has.2)
        rfl
  · intro registration isMember
    cases isMember

end BacnetServer

end BacnetStack
