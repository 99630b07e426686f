import BacnetStack.ServerCovRetransmission
import BacnetStack.ServerReplies

namespace BacnetStack

open EventRun

/-!
# Where notified values come from

A slot keeps no objects, only what it last sent.  Along a run every
notification, a repeated one as well, still carries values that the server
read from its objects in one idle poll, for the subscription that is in the
slot when the notification is built.
-/

/-- The server after a run from a new one. -/
abbrev serverAfter (events : List ServerEvent) : BacnetServer :=
  run BacnetServer.step {} events

/--
All of the values were read from an object in the same idle poll of a run.
-/
def ReadTogether
    (events : List ServerEvent)
    (object : BacnetObjectId)
    (values : List BacnetCovPropertyValue) : Prop :=
  ∃ earlier later input,
    events = earlier ++ .poll input :: later ∧ input.packet = [] ∧
      ∀ entry ∈ values,
        (serverAfter earlier).objects.readCovValue object entry.property
          entry.arrayIndex = some entry.value

/-- A longer run has read what a shorter one has. -/
theorem ReadTogether.append
    {events : List ServerEvent}
    {object : BacnetObjectId}
    {values : List BacnetCovPropertyValue}
    (read : ReadTogether events object values)
    (more : List ServerEvent) :
    ReadTogether (events ++ more) object values := by
  obtain ⟨earlier, later, input, rfl, idle, values⟩ := read
  refine ⟨earlier, later ++ more, input, ?_, idle, values⟩
  rw [List.append_assoc, List.cons_append]

/-- Collected values are those of the monitored object. -/
theorem readCovValue_of_collectCovValues
    {objects : ServerObjects}
    {subscription : BacnetServerCovSubscription}
    {values : List BacnetCovPropertyValue}
    (collected : collectCovValues objects subscription = some values) :
    ∀ entry ∈ values,
      objects.readCovValue subscription.object entry.property
        entry.arrayIndex = some entry.value := by
  unfold collectCovValues at collected
  generalize subscription.reported = references at collected
  induction references generalizing values with
  | nil =>
      obtain rfl : [] = values := Option.some.inj collected
      intro entry isMember
      cases isMember
  | cons reference rest inductionHypothesis =>
      rw [List.mapM_cons] at collected
      obtain ⟨head, isHead, collected⟩ := Option.bind_eq_some_iff.mp collected
      obtain ⟨tail, isTail, collected⟩ := Option.bind_eq_some_iff.mp collected
      obtain rfl : head :: tail = values := Option.some.inj collected
      obtain ⟨value, isValue, isEntry⟩ := Option.bind_eq_some_iff.mp isHead
      obtain rfl := Option.some.inj isEntry
      intro entry isMember
      rcases List.mem_cons.mp isMember with rfl | inTail
      · exact isValue
      · exact inductionHypothesis isTail entry inTail

/-- Only standard objects are read for a subscription. -/
theorem objectType_of_readCovValue
    {objects : ServerObjects}
    {object : BacnetObjectId}
    {property : BacnetPropertyId}
    {arrayIndex : UInt32}
    {value : BacnetValue}
    (read : objects.readCovValue object property arrayIndex = some value) :
    object.type ≤ 1023 := by
  unfold ServerObjects.readCovValue at read
  split at read
  · cases read
  · split at read
    · rename_i isType
      rw [isType]
      decide
    · split at read
      · rename_i isType
        rw [isType]
        decide
      · split at read
        · rename_i isType
          rw [isType]
          decide
        · split at read
          · rename_i isType
            rw [isType]
            decide
          · split at read
            · rename_i isType
              rw [isType]
              decide
            · split at read
              · rename_i isType
                rw [isType]
                decide
              · cases read

/-- An accepted request names an object that can be read. -/
theorem objectType_of_accepted
    {objects : ServerObjects}
    {request : BacnetSubscribeCovRequestHeader}
    (accepted : request.refusal objects = none) :
    request.object.type ≤ 1023 := by
  unfold BacnetSubscribeCovRequestHeader.refusal at accepted
  split at accepted
  · cases accepted
  · rename_i read
    exact objectType_of_readCovValue read

/--
The subscription of a slot in use can be named in a packet, and the
notifications that started an exchange carried values read together.
-/
structure CovOrigins
    (events : List ServerEvent)
    (slot : CovSlot)
    (history : List CovTransmission) : Prop where
  objectType : slot.subscription.object.type ≤ 1023
  references :
    ∀ transmission ∈ history, transmission.isRetransmission = false →
      transmission.values.map BacnetCovPropertyValue.reference =
        slot.subscription.reported
  read :
    ∀ transmission ∈ history, transmission.isRetransmission = false →
      ReadTogether events slot.subscription.object transmission.values

namespace CovOrigins

variable
  {events : List ServerEvent}
  {slot after : CovSlot}
  {history : List CovTransmission}

/-- The subscription is the same, and the run goes on. -/
theorem congr
    (origins : CovOrigins events slot history)
    (object : after.subscription.object = slot.subscription.object)
    (reported : after.subscription.reported = slot.subscription.reported)
    (more : List ServerEvent) :
    CovOrigins (events ++ more) after history := by
  refine ⟨?_, fun transmission isMember starts => ?_,
    fun transmission isMember starts => ?_⟩
  · rw [object]
    exact origins.objectType
  · rw [reported]
    exact origins.references transmission isMember starts
  · rw [object]
    exact (origins.read transmission isMember starts).append more

/-- One more notification that starts an exchange, or a repeated one. -/
theorem cons
    (origins : CovOrigins events slot history)
    {transmission : CovTransmission}
    (starts :
      transmission.isRetransmission = false →
        transmission.values.map BacnetCovPropertyValue.reference =
            slot.subscription.reported ∧
          ReadTogether events slot.subscription.object
            transmission.values) :
    CovOrigins events slot (transmission :: history) := by
  refine ⟨origins.objectType, fun other isMember isOriginal => ?_,
    fun other isMember isOriginal => ?_⟩
  · rcases List.mem_cons.mp isMember with rfl | isEarlier
    · exact (starts isOriginal).1
    · exact origins.references other isEarlier isOriginal
  · rcases List.mem_cons.mp isMember with rfl | isEarlier
    · exact (starts isOriginal).2
    · exact origins.read other isEarlier isOriginal

end CovOrigins

/-- A slot in use keeps the origins of its notifications. -/
theorem covOrigins_recordStep
    {events : List ServerEvent}
    {event : ServerEvent}
    {index : CovIndex}
    {slot after : CovSlot}
    {history following : List CovTransmission}
    (step :
      RecordStep (serverAfter events) event index slot history after
        following)
    (origins :
      slot.subscription.state ≠ .inactive → CovOrigins events slot history)
    (inUse : after.subscription.state ≠ .inactive) :
    CovOrigins (events ++ [event]) after following := by
  cases step with
  | kept => exact (origins inUse).congr rfl rfl _
  | dropped cause => exact absurd rfl inUse
  | activated input request isPoll parsed accepted subscribes target =>
      refine ⟨objectType_of_accepted accepted, ?_, ?_⟩
      · intro transmission isMember
        cases isMember
      · intro transmission isMember
        cases isMember
  | completed input isPoll awaiting =>
      have wasInUse : slot.subscription.state ≠ .inactive := by
        rw [awaiting]
        decide
      refine (origins wasInUse).congr ?_ ?_ [event]
      · rfl
      · rfl
  | passed input after isPoll idle visited =>
      rcases visitSlot_next_cases visited
        with rfl | ⟨_, _, rfl⟩ | ⟨awaiting, _, _, _, _, rfl⟩
      · exact (origins inUse).congr rfl rfl [event]
      · exact absurd rfl inUse
      · have wasInUse : slot.subscription.state ≠ .inactive := by
          rw [awaiting]
          decide
        refine (origins wasInUse).congr ?_ ?_ [event]
        · rfl
        · rfl
  | sent input after transmission isPoll idle visited =>
      subst isPoll
      have sameSubscription :
          after.subscription = slot.subscription ∧
            slot.subscription.state ≠ .inactive ∧
            (transmission.isRetransmission = false →
              collectCovValues (serverAfter events).objects
                slot.subscription = some transmission.values) := by
        rcases visitSlot_send_cases visited
          with ⟨_, _, ⟨resent, awaiting, _, _, _, rfl⟩ |
            ⟨_, active, collected, _, rfl⟩⟩
        · refine ⟨rfl, by rw [awaiting]; decide, fun original => ?_⟩
          rw [resent] at original
          cases original
        · exact ⟨rfl, by rw [active]; decide, fun _ => collected⟩
      obtain ⟨sameSubscription, wasInUse, collects⟩ := sameSubscription
      have kept :
          ((serverAfter events).sentSlot input.sendSucceeds
              ((serverAfter events).nowMs input.clockMs) after
              transmission.values).subscription.object =
                slot.subscription.object ∧
            ((serverAfter events).sentSlot input.sendSucceeds
              ((serverAfter events).nowMs input.clockMs) after
              transmission.values).subscription.reported =
                slot.subscription.reported := by
        rw [← sameSubscription]
        unfold BacnetServer.sentSlot
        split <;> exact ⟨rfl, rfl⟩
      refine CovOrigins.cons ((origins wasInUse).congr kept.1 kept.2 _) ?_
      intro original
      have collected := collects original
      rw [kept.1, kept.2]
      exact ⟨references_of_collectCovValues collected, events, [], input,
        rfl, idle, readCovValue_of_collectCovValues collected⟩

/-- In every state of every run. -/
theorem covOrigins_after
    (events : List ServerEvent)
    (index : CovIndex)
    (inUse :
      ((TrackedServer.after events).slot index).subscription.state ≠
        .inactive) :
    CovOrigins events ((TrackedServer.after events).slot index)
      ((TrackedServer.after events).history index) := by
  induction events using List.reverseRecOn with
  | nil => exact absurd rfl inUse
  | append_singleton events event inductionHypothesis =>
      rw [TrackedServer.after_concat] at inUse ⊢
      have step := (TrackedServer.after events).recordStep event index
      have server := TrackedServer.after_server events
      rw [server] at step
      refine covOrigins_recordStep step (fun wasInUse => ?_) inUse
      have origins := inductionHypothesis
        (by rw [TrackedServer.slot, server]; exact wasInUse)
      rw [TrackedServer.slot, server] at origins
      exact origins

/-- What a repeated notification makes of a value. -/
def BacnetCovPropertyValue.repeated
    (entry : BacnetCovPropertyValue) : BacnetCovPropertyValue :=
  { entry with value := snapshotValue (snapshotOf entry.value) }

/--
A notification belongs to the subscription in a slot of the server, which
read the values of it from the subscribed object in one idle poll; a repeated
one says of them what a snapshot keeps.
-/
structure NotificationOrigin
    (events : List ServerEvent)
    (input : PollInput)
    (index : CovIndex)
    (original : List BacnetCovPropertyValue)
    (datagram : Datagram)
    (notification : BacnetCovNotification) : Prop where
  sent : ((serverAfter events).poll input).datagram = some datagram
  inUse :
    ((serverAfter events).covSlots index).subscription.state ≠ .inactive
  destination :
    datagram.destination =
      ((serverAfter events).covSlots index).subscription.peer
  processId :
    notification.processId =
      ((serverAfter events).covSlots index).subscription.processId
  object :
    notification.object =
      ((serverAfter events).covSlots index).subscription.object
  confirmed :
    notification.confirmed =
      ((serverAfter events).covSlots index).subscription.confirmed
  references :
    original.map BacnetCovPropertyValue.reference =
      ((serverAfter events).covSlots index).subscription.reported
  read :
    ReadTogether (events ++ [.poll input])
      ((serverAfter events).covSlots index).subscription.object original
  properties :
    notification.properties = original.map receivedEntry ∨
      notification.properties =
        (original.map BacnetCovPropertyValue.repeated).map receivedEntry

/-- The values of a notification that is built after a run. -/
theorem values_of_notifies
    {events : List ServerEvent}
    {input : PollInput}
    {index : CovIndex}
    {after : CovSlot}
    {transmission : CovTransmission}
    (notifies :
      (serverAfter events).NotifiesWith input index after transmission) :
    after.subscription =
        ((serverAfter events).covSlots index).subscription ∧
      ((serverAfter events).covSlots index).subscription.state ≠
        .inactive ∧
      ((serverAfter events).covSlots index).subscription.object.type ≤
        1023 ∧
      ∃ original,
        original.map BacnetCovPropertyValue.reference =
            ((serverAfter events).covSlots index).subscription.reported ∧
          ReadTogether (events ++ [.poll input])
            ((serverAfter events).covSlots index).subscription.object
            original ∧
          (transmission.values = original ∨
            transmission.values =
              original.map BacnetCovPropertyValue.repeated) := by
  have server := TrackedServer.after_server events
  have origins := covOrigins_after events index
  rw [TrackedServer.slot, server] at origins
  obtain ⟨_, _, resent | fresh⟩ := visitSlot_send_cases notifies.visited
  · obtain ⟨_, awaiting, _, _, values, rfl⟩ := resent
    have inUse :
        ((serverAfter events).covSlots index).subscription.state ≠
          .inactive := by
      rw [awaiting]
      decide
    have ledger := (TrackedServer.reachable_after events).covLedger index
    rw [TrackedServer.slot, server] at ledger
    obtain ⟨original, found, _, stores⟩ := ledger.original awaiting
    have isMember := List.mem_of_find?_eq_some found
    have starts : original.isRetransmission = false := by
      simpa using List.find?_some found
    refine ⟨rfl, inUse, (origins inUse).objectType, original.values,
      (origins inUse).references original isMember starts,
      ((origins inUse).read original isMember starts).append _,
      Or.inr ?_⟩
    rw [values]
    exact retryValues_of_stores stores
  · obtain ⟨_, active, collected, _, rfl⟩ := fresh
    have inUse :
        ((serverAfter events).covSlots index).subscription.state ≠
          .inactive := by
      rw [active]
      decide
    exact ⟨rfl, inUse, (origins inUse).objectType, transmission.values,
      references_of_collectCovValues collected,
      ⟨events, [], input, rfl, notifies.idle,
        readCovValue_of_collectCovValues collected⟩, Or.inl rfl⟩

/--
Whatever a client parses as a notification of a server, in any poll of any
run, has its values from the object that the recipient subscribed to.
-/
theorem notification_hasOrigin
    (events : List ServerEvent)
    {input : PollInput}
    {datagram : Datagram}
    (sent : ((serverAfter events).poll input).datagram = some datagram)
    {notification : BacnetCovNotification}
    (parsed : parseCovNotification datagram.packet = some notification) :
    ∃ index original,
      NotificationOrigin events input index original datagram
        notification := by
  obtain ⟨index, after, transmission, sender, notifies, destination,
    built⟩ := BacnetServer.notifies_of_parsed sent parsed
  obtain ⟨sameSubscription, inUse, objectType, original, references, read,
    values⟩ := values_of_notifies notifies
  have few : transmission.values.length ≤ kMaxCovNotificationProperties := by
    have bound := length_reported_le
      ((serverAfter events).covSlots index).subscription
    have sized := congrArg List.length references
    rw [List.length_map] at sized
    have atMost : original.length ≤ kMaxCovNotificationProperties :=
      (sized.trans_le bound).trans (by decide)
    rcases values with same | same
    · rw [same]
      exact atMost
    · rw [same, List.length_map]
      exact atMost
  rw [sameSubscription] at destination built
  obtain ⟨process, object, confirmed, properties⟩ :=
    parsed_of_build few objectType built parsed
  refine ⟨index, original, sent, inUse, destination, process, object,
    confirmed, references, read, ?_⟩
  rcases values with same | same
  · rw [← same]
    exact Or.inl properties
  · rw [← same]
    exact Or.inr properties

/-- An analog value is subscribed to and reported to its subscriber. -/
def reportedRun : List ServerEvent :=
  startedServer (oneAnalogValue .one) ++
    [.poll {
      packet :=
        [0x81, 0x0A, 0, 24, 1, 4, 0, 5, 1, 5, 0x0C, 0, 0x80, 0, 1, 0x1C, 0,
          0x80, 0, 1, 0x29, 0, 0x39, 60] }]

/-- The first notification of that run has an origin. -/
theorem notification_hasOrigin_reportedRun :
    ∃ datagram notification index original,
      parseCovNotification datagram.packet = some notification ∧
        NotificationOrigin reportedRun {} index original datagram
          notification := by
  have isParsed :
      ((((serverAfter reportedRun).poll {}).datagram).bind fun datagram =>
        (parseCovNotification datagram.packet).map fun notification =>
          (datagram, notification)).isSome = true := by
    decide +kernel
  obtain ⟨⟨datagram, notification⟩, found⟩ :=
    Option.isSome_iff_exists.mp isParsed
  obtain ⟨_, sent, found⟩ := Option.bind_eq_some_iff.mp found
  obtain ⟨_, parsed, same⟩ := Option.map_eq_some_iff.mp found
  obtain ⟨rfl, rfl⟩ := Prod.mk.inj same
  obtain ⟨index, original, origin⟩ :=
    notification_hasOrigin reportedRun sent parsed
  exact ⟨_, _, index, original, parsed, origin⟩

end BacnetStack
