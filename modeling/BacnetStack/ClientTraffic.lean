import BacnetStack.ClientCalls
import BacnetStack.ProtocolReadAck

namespace BacnetStack

/-!
# What the requests and polls of a client leave alone

Most of what a session does to its client sends a request or reads a
datagram: neither touches the queue of COV notifications, and neither sends
an acknowledgement.  This module says so once for every operation of that
kind.
-/

namespace PacketWriter

/-- A writer leaves the first application octet as it was written. -/
def KeepsApduType {α : Type} (writer : PacketWriter α) : Prop :=
  ∀ written octets result,
    exec writer written = (some result, octets) →
      ∀ octet, written[6]? = some octet → octets[6]? = some octet

section

variable {α β : Type}

/-- Two writers in a row. -/
theorem keepsApduType_bind
    {writer : PacketWriter α}
    {continuation : α → PacketWriter β}
    (first : KeepsApduType writer)
    (second : ∀ value, KeepsApduType (continuation value)) :
    KeepsApduType (writer >>= continuation) := by
  intro written octets result wrote octet known
  obtain ⟨value, middle, wroteFirst, wroteSecond⟩ :=
    exec_bind_eq_some_iff.mp wrote
  exact second value middle octets result wroteSecond octet
    (first written middle value wroteFirst octet known)

/-- Octets are written behind those that are there. -/
theorem keepsApduType_put (octets : List UInt8) :
    KeepsApduType (put octets) := by
  intro written after result wrote octet known
  obtain ⟨-, rfl⟩ := Prod.mk.inj wrote
  have inside : 6 < written.length :=
    (List.getElem?_eq_some_iff.mp known).1
  rw [List.getElem?_append_left inside]
  exact known

/-- A check writes nothing. -/
theorem keepsApduType_require (holds : Bool) :
    KeepsApduType (require holds) := by
  intro written after result wrote octet known
  obtain ⟨-, rfl⟩ := exec_require_eq_some_iff.mp wrote
  exact known

/-- A look at the length writes nothing. -/
theorem keepsApduType_offset : KeepsApduType offset := by
  intro written after result wrote octet known
  obtain ⟨-, rfl⟩ := Prod.mk.inj wrote
  exact known

theorem keepsApduType_storeLength : KeepsApduType storeLength := by
  intro written after result wrote octet known
  obtain ⟨-, rfl⟩ := Prod.mk.inj wrote
  rw [List.getElem?_set_ne (by decide), List.getElem?_set_ne (by decide)]
  exact known

/-- A value is written behind what is there. -/
theorem keepsApduType_putApplicationValue
    (bufferSize : Nat)
    (value : BacnetValue) :
    KeepsApduType (putApplicationValue bufferSize value) := by
  intro written after result wrote octet known
  obtain ⟨encoded, -, -, rfl⟩ :=
    exec_putApplicationValue_eq_some_iff.mp wrote
  have inside : 6 < written.length :=
    (List.getElem?_eq_some_iff.mp known).1
  rw [List.getElem?_append_left inside]
  exact known

/-- A part that is only written under a condition. -/
theorem keepsApduType_optional
    {condition : Prop}
    [Decidable condition]
    {writer : PacketWriter PUnit}
    {rest : PUnit → PacketWriter β}
    (optional : KeepsApduType writer)
    (always : KeepsApduType (rest ⟨⟩)) :
    KeepsApduType (if condition then writer >>= rest else rest ⟨⟩) := by
  split
  · exact keepsApduType_bind optional fun _ => always
  · exact always

/-- A packet that starts as a confirmed request stays one. -/
theorem apduType_of_build
    {guard : Bool}
    {invokeId service : UInt8}
    {continuation : PacketWriter Unit}
    {packet : List UInt8}
    (keeps : KeepsApduType continuation)
    (built :
      build
        (do
          require guard
          putConfirmedRequest invokeId service
          continuation) = some packet) :
    packet[6]? = some kApduConfirmedRequest := by
  obtain ⟨-, wrote⟩ :=
    exec_require_bind_iff.mp (build_eq_some_iff.mp built)
  obtain ⟨_, middle, headers, rest⟩ := exec_bind_eq_some_iff.mp wrote
  obtain ⟨-, rfl⟩ := Prod.mk.inj headers
  exact keeps _ _ _ rest _ rfl

end

end PacketWriter

open PacketWriter

/-- A packet that acknowledges a COV notification. -/
def IsCovAcknowledgement (packet : List UInt8) : Prop :=
  ∃ invokeId,
    packet = simpleAckPacket invokeId kServiceConfirmedCovNotification

/-- A confirmed request is no acknowledgement. -/
theorem not_isCovAcknowledgement
    {packet : List UInt8}
    (request : packet[6]? = some kApduConfirmedRequest) :
    ¬IsCovAcknowledgement packet := by
  rintro ⟨invokeId, rfl⟩
  have different : kApduSimpleAck ≠ kApduConfirmedRequest := by decide
  exact different (Option.some.inj request)

/-- A ReadProperty request is a confirmed request. -/
theorem buildReadPropertyRequest_request
    {bufferSize : Nat}
    {request : BacnetPropertyRequest}
    {invokeId : UInt8}
    {packet : List UInt8}
    (built :
      buildReadPropertyRequest bufferSize request invokeId = some packet) :
    packet[6]? = some kApduConfirmedRequest := by
  refine apduType_of_build ?_ built
  refine keepsApduType_bind (keepsApduType_put _) fun _ => ?_
  refine keepsApduType_bind (keepsApduType_put _) fun _ => ?_
  exact keepsApduType_optional (keepsApduType_put _)
    keepsApduType_storeLength

/-- A WriteProperty request is a confirmed request. -/
theorem buildWritePropertyRequest_request
    {bufferSize : Nat}
    {object : BacnetObjectId}
    {property : BacnetPropertyId}
    {value : BacnetValue}
    {options : BacnetWritePropertyOptions}
    {invokeId : UInt8}
    {packet : List UInt8}
    (built :
      buildWritePropertyRequest bufferSize object property value options
        invokeId = some packet) :
    packet[6]? = some kApduConfirmedRequest := by
  refine apduType_of_build ?_ built
  refine keepsApduType_bind (keepsApduType_put _) fun _ => ?_
  refine keepsApduType_bind (keepsApduType_put _) fun _ => ?_
  refine keepsApduType_optional (keepsApduType_put _) ?_
  refine keepsApduType_bind keepsApduType_offset fun _ => ?_
  refine keepsApduType_bind (keepsApduType_require _) fun _ => ?_
  refine keepsApduType_bind (keepsApduType_put _) fun _ => ?_
  refine keepsApduType_bind keepsApduType_offset fun _ => ?_
  refine keepsApduType_bind
    (keepsApduType_putApplicationValue _ _) fun _ => ?_
  refine keepsApduType_bind keepsApduType_offset fun _ => ?_
  refine keepsApduType_bind (keepsApduType_require _) fun _ => ?_
  refine keepsApduType_bind (keepsApduType_put _) fun _ => ?_
  dsimp only
  split
  · refine keepsApduType_bind keepsApduType_offset fun _ => ?_
    refine keepsApduType_bind (keepsApduType_require _) fun _ => ?_
    exact keepsApduType_bind (keepsApduType_put _) fun _ =>
      keepsApduType_storeLength
  · exact keepsApduType_storeLength

/-- A SubscribeCOV request is a confirmed request. -/
theorem buildSubscribeCovRequest_request
    {bufferSize : Nat}
    {processId : UInt32}
    {object : BacnetObjectId}
    {lifetimeSeconds : UInt32}
    {confirmed : Bool}
    {packet : List UInt8}
    (built :
      buildSubscribeCovRequest bufferSize processId object lifetimeSeconds
        confirmed = some packet) :
    packet[6]? = some kApduConfirmedRequest := by
  refine apduType_of_build ?_ built
  refine keepsApduType_bind (keepsApduType_put _) fun _ => ?_
  refine keepsApduType_bind (keepsApduType_put _) fun _ => ?_
  refine keepsApduType_bind (keepsApduType_put _) fun _ => ?_
  exact keepsApduType_bind (keepsApduType_put _) fun _ =>
    keepsApduType_storeLength

/-- A SubscribeCOVProperty request is a confirmed request. -/
theorem buildSubscribeCovPropertyRequest_request
    {bufferSize : Nat}
    {processId lifetimeSeconds arrayIndex : UInt32}
    {object : BacnetObjectId}
    {property : BacnetPropertyId}
    {confirmed hasCovIncrement : Bool}
    {covIncrement : Binary32}
    {packet : List UInt8}
    (built :
      buildSubscribeCovPropertyRequest bufferSize processId object property
        lifetimeSeconds confirmed arrayIndex hasCovIncrement covIncrement =
          some packet) :
    packet[6]? = some kApduConfirmedRequest := by
  refine apduType_of_build ?_ built
  refine keepsApduType_bind (keepsApduType_put _) fun _ => ?_
  refine keepsApduType_bind (keepsApduType_put _) fun _ => ?_
  refine keepsApduType_bind (keepsApduType_put _) fun _ => ?_
  refine keepsApduType_bind (keepsApduType_put _) fun _ => ?_
  refine keepsApduType_optional (keepsApduType_put _) ?_
  refine keepsApduType_bind (keepsApduType_put _) fun _ => ?_
  refine keepsApduType_bind (keepsApduType_put _) fun _ => ?_
  refine keepsApduType_bind (keepsApduType_put _) fun _ => ?_
  exact keepsApduType_optional (keepsApduType_put _)
    keepsApduType_storeLength

/-- The notification that arrived with a received datagram. -/
def ClientTraffic.arrival? : ClientTraffic → Option BacnetCovNotification
  | .received datagram => datagram.covNotification?
  | .sent _ _ _ | .notified _ => none

/-- Traffic that has nothing to do with COV notifications. -/
def ClientTraffic.IsQuiet : ClientTraffic → Prop
  | .received _ => True
  | .sent _ packet _ => ¬IsCovAcknowledgement packet
  | .notified _ => False

/--
A client sent requests and read datagrams, and kept everything it knows about
notifications.
-/
structure BacnetClient.QuietStep {τ : Type}
    (before after : BacnetClient τ) : Prop where
  running : after.running = before.running
  queued : after.queuedCovNotifications = before.queuedCovNotifications
  traffic :
    ∃ new, after.traffic = new ++ before.traffic ∧
      ∀ entry ∈ new, entry.IsQuiet

namespace BacnetClient

variable {τ : Type} (runtime : ClientRuntime τ)

namespace QuietStep

theorem refl (client : BacnetClient τ) : client.QuietStep client :=
  ⟨rfl, rfl, [], rfl, fun _ isMember => absurd isMember List.not_mem_nil⟩

theorem trans
    {first second third : BacnetClient τ}
    (early : first.QuietStep second)
    (late : second.QuietStep third) :
    first.QuietStep third := by
  obtain ⟨earlyNew, earlyTraffic, earlyQuiet⟩ := early.traffic
  obtain ⟨lateNew, lateTraffic, lateQuiet⟩ := late.traffic
  refine ⟨late.running.trans early.running,
    late.queued.trans early.queued, lateNew ++ earlyNew, ?_, ?_⟩
  · rw [lateTraffic, earlyTraffic, List.append_assoc]
  · intro entry isMember
    rcases List.mem_append.mp isMember with isLate | isEarly
    · exact lateQuiet entry isLate
    · exact earlyQuiet entry isEarly

/-- Nothing but the transport changed. -/
theorem of_transport
    (client : BacnetClient τ)
    (transport : τ) :
    client.QuietStep { client with transport := transport } :=
  ⟨rfl, rfl, [], rfl, fun _ isMember => absurd isMember List.not_mem_nil⟩

end QuietStep

/-- Nothing was received. -/
theorem receive_none
    {runtime : ClientRuntime τ}
    {client received : BacnetClient τ}
    (receives : client.receive runtime = (none, received)) :
    received.traffic = client.traffic ∧
      received.queuedCovNotifications = client.queuedCovNotifications := by
  unfold receive at receives
  split at receives
  · obtain ⟨-, rfl⟩ := Prod.mk.inj receives
    exact ⟨rfl, rfl⟩
  · exact nomatch receives

/-- A datagram was received. -/
theorem receive_some
    {runtime : ClientRuntime τ}
    {client received : BacnetClient τ}
    {datagram : ReceivedDatagram}
    (receives : client.receive runtime = (some datagram, received)) :
    received.traffic = .received datagram :: client.traffic ∧
      received.queuedCovNotifications = client.queuedCovNotifications := by
  unfold receive at receives
  split at receives
  · exact nomatch receives
  · obtain ⟨isSame, rfl⟩ := Prod.mk.inj receives
    obtain rfl := Option.some.inj isSame
    exact ⟨rfl, rfl⟩

variable (client : BacnetClient τ)

/-- The clock is asked for the time. -/
theorem quiet_nowMs : client.QuietStep (client.nowMs runtime).2 :=
  .of_transport client _

theorem quiet_idle : client.QuietStep (client.idle runtime) :=
  .of_transport client _

/-- A datagram is received and not looked at. -/
theorem quiet_receive : client.QuietStep (client.receive runtime).2 := by
  unfold receive
  split
  · exact .of_transport client _
  · refine ⟨rfl, rfl, [_], rfl, ?_⟩
    intro entry isMember
    rw [List.mem_singleton.mp isMember]
    trivial

/-- A confirmed request is handed to the transport. -/
theorem quiet_send
    (destination : BacnetIpEndpoint)
    {packet : List UInt8}
    (request : packet[6]? = some kApduConfirmedRequest) :
    client.QuietStep (client.send runtime destination packet).2 := by
  refine ⟨rfl, rfl, [_], rfl, ?_⟩
  intro entry isMember
  rw [List.mem_singleton.mp isMember]
  exact not_isCovAcknowledgement request

/-- A request is sent if it could be built. -/
theorem quiet_sendRequest
    (destination : BacnetIpEndpoint)
    {request : Option (List UInt8)}
    (isRequest :
      ∀ packet ∈ request, packet[6]? = some kApduConfirmedRequest) :
    client.QuietStep (client.sendRequest runtime destination request).2 := by
  unfold sendRequest
  split
  · exact .refl client
  · split
    · exact client.quiet_send runtime destination (isRequest _ rfl)
    · exact .refl client

theorem quiet_sendReadProperty
    (destination : BacnetIpEndpoint)
    (request : BacnetPropertyRequest)
    (invokeId : UInt8) :
    client.QuietStep
      (client.sendReadProperty runtime destination request invokeId).2 := by
  unfold sendReadProperty
  split
  · exact .refl client
  · exact client.quiet_sendRequest runtime destination fun _ built =>
      buildReadPropertyRequest_request built

/-- A subscribe request keeps its type when its invoke id is replaced. -/
theorem apduType_setInvokeId
    {request : Option (List UInt8)}
    {invokeId : UInt8}
    (isRequest :
      ∀ packet ∈ request, packet[6]? = some kApduConfirmedRequest) :
    ∀ packet ∈ request.map (fun packet => packet.set 8 invokeId),
      packet[6]? = some kApduConfirmedRequest := by
  intro packet isMember
  obtain ⟨built, isBuilt, rfl⟩ := Option.map_eq_some_iff.mp isMember
  rw [List.getElem?_set_ne (by decide)]
  exact isRequest built isBuilt

theorem quiet_sendSubscribeCov
    (destination : BacnetIpEndpoint)
    (processId : UInt32)
    (object : BacnetObjectId)
    (lifetimeSeconds : UInt32)
    (invokeId : UInt8)
    (confirmed : Bool) :
    client.QuietStep
      (client.sendSubscribeCov runtime destination processId object
        lifetimeSeconds invokeId confirmed).2 :=
  client.quiet_sendRequest runtime destination
    (apduType_setInvokeId fun _ built =>
      buildSubscribeCovRequest_request built)

theorem quiet_sendSubscribeCovProperty
    (destination : BacnetIpEndpoint)
    (processId : UInt32)
    (object : BacnetObjectId)
    (property : BacnetPropertyId)
    (lifetimeSeconds : UInt32)
    (invokeId : UInt8)
    (confirmed : Bool)
    (arrayIndex : UInt32)
    (hasCovIncrement : Bool)
    (covIncrement : Binary32) :
    client.QuietStep
      (client.sendSubscribeCovProperty runtime destination processId object
        property lifetimeSeconds invokeId confirmed arrayIndex
        hasCovIncrement covIncrement).2 :=
  client.quiet_sendRequest runtime destination
    (apduType_setInvokeId fun _ built =>
      buildSubscribeCovPropertyRequest_request built)

/-- A write is sent if it could be built. -/
theorem quiet_sendWriteRequest
    (destination : BacnetIpEndpoint)
    {request : Option (List UInt8)}
    (isRequest :
      ∀ packet ∈ request, packet[6]? = some kApduConfirmedRequest) :
    client.QuietStep
      (client.sendWriteRequest runtime destination request).2 := by
  cases request with
  | none => exact .refl client
  | some packet =>
      have quiet :=
        client.quiet_send runtime destination
          (isRequest packet rfl)
      unfold sendWriteRequest
      dsimp only
      split
      all_goals
        rename_i shape
        rw [shape] at quiet
        exact quiet

theorem quiet_sendWriteProperty
    (destination : BacnetIpEndpoint)
    (request : BacnetPropertyRequest)
    (value : BacnetValue)
    (invokeId : UInt8) :
    client.QuietStep
      (client.sendWriteProperty runtime destination request value
        invokeId).2 := by
  unfold sendWriteProperty
  split
  · exact .refl client
  · split
    · exact .refl client
    · split
      · exact .refl client
      · exact client.quiet_sendWriteRequest runtime destination fun _ built =>
          buildWritePropertyRequest_request built

theorem quiet_sendWritePropertyWithOptions
    (destination : BacnetIpEndpoint)
    (object : BacnetObjectId)
    (property : BacnetPropertyId)
    (value : BacnetValue)
    (options : BacnetWritePropertyOptions)
    (invokeId : UInt8) :
    client.QuietStep
      (client.sendWritePropertyWithOptions runtime destination object
        property value options invokeId).2 := by
  unfold sendWritePropertyWithOptions
  split
  · exact .refl client
  · split
    · exact .refl client
    · split
      · exact .refl client
      · exact client.quiet_sendWriteRequest runtime destination fun _ built =>
          buildWritePropertyRequest_request built

/-- A poll for a reply that is no notification. -/
theorem quiet_pollDatagram
    {Outcome : Type}
    (pending : Outcome)
    (classify : ReceivedDatagram → Outcome) :
    client.QuietStep
      (client.pollDatagram runtime pending classify).2 := by
  unfold pollDatagram
  split
  · have quiet := client.quiet_receive runtime
    split
    all_goals
      rename_i shape
      rw [shape] at quiet
      exact quiet
  · exact .refl client

/-- A poll for the reply to a write. -/
theorem quiet_pollWriteProperty (invokeId : UInt8) :
    client.QuietStep (client.pollWriteProperty runtime invokeId).2 := by
  unfold pollWriteProperty
  split
  · exact .refl client
  · split
    · exact .refl client
    · exact client.quiet_pollDatagram runtime _ _

/-- One round of the wait for a value. -/
theorem quiet_awaitedRead
    (invokeId : UInt8)
    (request : BacnetPropertyRequest) :
    client.QuietStep (awaitedRead runtime invokeId request client).2 := by
  unfold awaitedRead pollReadPropertyStatus
  exact client.quiet_pollDatagram runtime _ _

/-- One round of the wait for a priority array. -/
theorem quiet_awaitedPriorityArray
    (invokeId : UInt8)
    (request : BacnetPropertyRequest) :
    client.QuietStep
      (awaitedPriorityArray runtime invokeId request client).2 := by
  unfold awaitedPriorityArray pollReadPriorityArrayStatus
  exact client.quiet_pollDatagram runtime _ _

/-- One round of the wait for the reply to a write. -/
theorem quiet_awaitedWrite
    (ends :
      BacnetWritePropertyPollStatus →
        Option BacnetDeviceSessionWriteStatus)
    (invokeId : UInt8) :
    client.QuietStep (awaitedWrite runtime ends invokeId client).2 :=
  client.quiet_pollWriteProperty runtime invokeId

/-- Waiting is quiet when each of its polls is. -/
theorem quiet_await
    {Outcome : Type}
    {poll : BacnetClient τ → Option Outcome × BacnetClient τ}
    (quietPoll :
      ∀ client : BacnetClient τ, client.QuietStep (poll client).2)
    (startedAt timeoutMs : UInt32)
    (rounds : Nat) :
    client.QuietStep
      (client.await runtime poll startedAt timeoutMs rounds).2 := by
  induction rounds generalizing client with
  | zero => exact .refl client
  | succ rounds inductionHypothesis =>
      have polled := quietPoll client
      unfold await
      split
      · rename_i shape
        rw [shape] at polled
        exact polled
      · rename_i pending shape
        rw [shape] at polled
        have timed := polled.trans (pending.quiet_nowMs runtime)
        dsimp only
        split
        · exact timed
        · exact (timed.trans (quiet_idle runtime _)).trans
            (inductionHypothesis _)

end BacnetClient

end BacnetStack
