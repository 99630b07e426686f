import BacnetStack.ProtocolCovCodec
import BacnetStack.ProtocolIAmCodec
import BacnetStack.ProtocolTrailingOctets
import BacnetStack.ServerDispatch
import BacnetStack.ServerReadReply

namespace BacnetStack

/-!
# The datagrams of a server

A poll with a received packet answers a confirmed request with one of four
kinds of packets, and a Who-Is with an announcement of the server.  An idle
poll sends a notification or nothing.  A client tells them apart: no reply is
parsed as a notification, and nothing else as an announcement.
-/

open Reader

/-- The octets of a reject. -/
def rejectPacket (invokeId reason : UInt8) : List UInt8 :=
  [kBvlcTypeBacnetIp, kBvlcOriginalUnicastNpdu, 0, 9, kNpduVersion, 0,
    kApduReject, invokeId, reason]

/-- The packets a server answers a confirmed request with. -/
inductive ConfirmedReply : List UInt8 → Prop where
  | acknowledged (invokeId service : UInt8) :
      ConfirmedReply (simpleAckPacket invokeId service)
  | refused (invokeId service : UInt8) (error : BacnetError) :
      ConfirmedReply (serviceErrorPacket invokeId service error.1 error.2)
  | rejected (invokeId : UInt8) :
      ConfirmedReply
        (rejectPacket invokeId BacnetServer.kRejectReasonUnrecognizedService)
  | answered
      (request : BacnetReadPropertyRequestHeader)
      (values : List (List UInt8)) :
      ConfirmedReply (readAckPacket request values)

/-- What a server says of itself. -/
def BacnetServer.announcement
    (server : BacnetServer) : BacnetIAmDeviceInfo where
  deviceInstance := server.device.deviceInstance
  maxApduLengthAccepted := server.device.maxApduLengthAccepted
  segmentationSupported := server.device.segmentationSupported
  vendorId := server.device.vendorId

/-- A received packet asks a ready server who it is. -/
structure BacnetServer.Asked
    (server : BacnetServer)
    (input : PollInput)
    (whoIs : BacnetWhoIsRequest) : Prop where
  ready : server.Ready
  parsed : parseWhoIsRequest input.packet = some whoIs
  includes : whoIs.includes server.device.deviceInstance = true
  small : server.device.deviceInstance ≤ kObjectInstanceMask

/-- The packets a server answers a received packet with. -/
inductive ServerReply
    (server : BacnetServer)
    (input : PollInput) : List UInt8 → Prop where
  | confirmed
      {packet : List UInt8}
      (reply : ConfirmedReply packet) :
      ServerReply server input packet
  | announced
      {whoIs : BacnetWhoIsRequest}
      (asked : server.Asked input whoIs) :
      ServerReply server input (announcedPacket server.announcement)

/-- Behind plain headers the service decides whether a packet is parsed. -/
theorem parseCovNotification_of_service
    {apdu : List UInt8}
    {fault : ReadFault}
    (otherService : readCovNotificationService.run apdu = .error fault)
    (high low : UInt8) :
    parseCovNotification
      (kBvlcTypeBacnetIp :: kBvlcOriginalUnicastNpdu :: high :: low ::
        kNpduVersion :: 0 :: apdu) = none := by
  cases parsed :
      parseCovNotification
        (kBvlcTypeBacnetIp :: kBvlcOriginalUnicastNpdu :: high :: low ::
          kNpduVersion :: 0 :: apdu) with
  | none => rfl
  | some notification =>
      obtain ⟨_, read⟩ := parse?_eq_some_iff.mp parsed
      rw [covNotificationReader, run_bind_eq_ok_iff] at read
      obtain ⟨_, _, header, read⟩ := read
      rw [run_readBvlcHeader_cons] at header
      split at header
      · cases header
        rw [run_bind_of_ok (run_readNpduHeader_plain (Or.inl rfl) apdu),
          run_bind_of_error otherService] at read
        cases read
      · cases header

/-- Only two kinds of APDUs carry a notification. -/
theorem run_readCovNotificationService_of_type
    {type : UInt8}
    (notUnconfirmed : type ≠ kApduUnconfirmedRequest)
    (notConfirmed : (type &&& 0xF0 == kApduConfirmedRequest) = false)
    (rest : List UInt8) :
    ∃ fault,
      readCovNotificationService.run (type :: rest) = .error fault := by
  refine ⟨.rejected, ?_⟩
  rw [readCovNotificationService,
    run_bind_of_ok (run_checkedNext_cons type rest), if_neg notUnconfirmed,
    notConfirmed]
  rfl

theorem readAckPacket_eq_cons
    (request : BacnetReadPropertyRequestHeader)
    (values : List (List UInt8)) :
    ∃ high low rest,
      readAckPacket request values =
        kBvlcTypeBacnetIp :: kBvlcOriginalUnicastNpdu :: high :: low ::
          kNpduVersion :: 0 :: kApduComplexAck :: rest :=
  ⟨_, _, _, rfl⟩

/-- A client takes no reply to a request for a notification. -/
theorem ConfirmedReply.no_notification
    {packet : List UInt8}
    (reply : ConfirmedReply packet) :
    parseCovNotification packet = none := by
  cases reply with
  | acknowledged invokeId service =>
      obtain ⟨fault, otherService⟩ :=
        @run_readCovNotificationService_of_type kApduSimpleAck (by decide)
          (by decide) [invokeId, service]
      exact parseCovNotification_of_service otherService 0 9
  | refused invokeId service error =>
      obtain ⟨fault, otherService⟩ :=
        @run_readCovNotificationService_of_type kApduError (by decide)
          (by decide) [invokeId, service, 0x91, error.1.toUInt8, 0x91,
            error.2.toUInt8]
      exact parseCovNotification_of_service otherService 0 13
  | rejected invokeId =>
      obtain ⟨fault, otherService⟩ :=
        @run_readCovNotificationService_of_type kApduReject (by decide)
          (by decide)
          [invokeId, BacnetServer.kRejectReasonUnrecognizedService]
      exact parseCovNotification_of_service otherService 0 9
  | answered request values =>
      obtain ⟨high, low, rest, shape⟩ := readAckPacket_eq_cons request values
      obtain ⟨fault, otherService⟩ :=
        @run_readCovNotificationService_of_type kApduComplexAck (by decide)
          (by decide) rest
      rw [shape]
      exact parseCovNotification_of_service otherService high low

/-- A client takes no reply of a server for a notification. -/
theorem ServerReply.no_notification
    {server : BacnetServer}
    {input : PollInput}
    {packet : List UInt8}
    (reply : ServerReply server input packet) :
    parseCovNotification packet = none := by
  cases reply with
  | confirmed reply => exact reply.no_notification
  | announced asked =>
      have otherService :
          readCovNotificationService.run
              (kApduUnconfirmedRequest :: kServiceIAm ::
                announcedFields server.announcement) =
            .error .rejected :=
        rfl
      exact parseCovNotification_of_service otherService _ _

/-- Behind plain headers an announcement names its service. -/
theorem service_of_parseIAmResponse
    {high low control type : UInt8}
    {rest : List UInt8}
    (plain : control = 0 ∨ control = kNpduExpectingReply)
    {device : BacnetIAmDeviceInfo}
    (parsed :
      parseIAmResponse
        (kBvlcTypeBacnetIp :: kBvlcOriginalUnicastNpdu :: high :: low ::
          kNpduVersion :: control :: type :: rest) = some device) :
    type = kApduUnconfirmedRequest ∧ rest.head? = some kServiceIAm := by
  obtain ⟨_, read⟩ := parse?_eq_some_iff.mp parsed
  rw [iAmReader, run_bind_eq_ok_iff] at read
  obtain ⟨_, _, header, read⟩ := read
  rw [run_readBvlcHeader_cons] at header
  split at header
  · cases header
    have skipped :
        readIAmNpduHeader.run (kNpduVersion :: control :: type :: rest) =
          .ok ((), type :: rest) := by
      rcases plain with rfl | rfl <;> rfl
    rw [run_bind_of_ok skipped, run_bind_of_ok (run_remaining _)] at read
    obtain ⟨_, _, passed, read⟩ := run_bind_eq_ok_iff.mp read
    obtain ⟨enough, rfl⟩ := run_require_eq_ok_iff.mp passed
    by_cases unconfirmed : type = kApduUnconfirmedRequest
    · refine ⟨unconfirmed, ?_⟩
      rw [unconfirmed, run_bind_of_ok (run_expect_cons _ _)] at read
      cases rest with
      | nil => cases enough
      | cons service body =>
          by_cases announces : service = kServiceIAm
          · exact congrArg some announces
          · rw [run_bind_of_error (run_expect_other announces _)] at read
            cases read
    · rw [run_bind_of_error (run_expect_other unconfirmed _)] at read
      cases read
  · cases header

/-- A client takes no reply to a request for an announcement. -/
theorem ConfirmedReply.no_announcement
    {packet : List UInt8}
    (reply : ConfirmedReply packet) :
    parseIAmResponse packet = none := by
  refine Option.eq_none_iff_forall_ne_some.mpr fun device parsed => ?_
  cases reply with
  | acknowledged invokeId service =>
      have named := (service_of_parseIAmResponse (.inl rfl) parsed).1
      exact absurd named (by decide)
  | refused invokeId service error =>
      have named := (service_of_parseIAmResponse (.inl rfl) parsed).1
      exact absurd named (by decide)
  | rejected invokeId =>
      have named := (service_of_parseIAmResponse (.inl rfl) parsed).1
      exact absurd named (by decide)
  | answered request values =>
      obtain ⟨high, low, rest, shape⟩ := readAckPacket_eq_cons request values
      rw [shape] at parsed
      have named := (service_of_parseIAmResponse (.inl rfl) parsed).1
      exact absurd named (by decide)

/-- A client takes no notification for an announcement. -/
theorem no_announcement_of_build
    {arguments : CovNotificationArguments}
    {bufferSize : Nat}
    {packet : List UInt8}
    (built : arguments.build bufferSize = some packet) :
    parseIAmResponse packet = none := by
  refine Option.eq_none_iff_forall_ne_some.mpr fun device parsed => ?_
  obtain ⟨-, -, entries, -, rfl⟩ :=
    CovNotificationArguments.build_eq_some built
  rw [CovNotificationArguments.packet, CovNotificationArguments.apdu,
    CovNotificationArguments.control,
    CovNotificationArguments.serviceOctets] at parsed
  cases isConfirmed : arguments.confirmed with
  | true =>
      rw [isConfirmed] at parsed
      have named := (service_of_parseIAmResponse (.inr rfl) parsed).1
      exact absurd named (by decide)
  | false =>
      rw [isConfirmed] at parsed
      have named := (service_of_parseIAmResponse (.inl rfl) parsed).2
      exact absurd (Option.some.inj named) (by decide)

namespace BacnetServer

variable {server : BacnetServer}

/-- An announcement is only built for an instance of 22 bits. -/
theorem announced_of_build
    {bufferSize : Nat}
    {device : BacnetIAmDeviceInfo}
    {packet : List UInt8}
    (built : buildIAmResponse bufferSize device = some packet) :
    device.deviceInstance ≤ kObjectInstanceMask ∧
      packet = announcedPacket device := by
  have checks := built
  rw [buildIAmResponse, PacketWriter.build_eq_some_iff, writeIAmResponse,
    PacketWriter.exec_require_bind_iff, Bool.and_eq_true,
    decide_eq_true_eq, decide_eq_true_eq] at checks
  obtain ⟨⟨fields, small⟩, _⟩ := checks
  have room : (announcedPacket device).length ≤ bufferSize :=
    length_announcedPacket device ▸ fields
  rw [buildIAmResponse_eq small room] at built
  exact ⟨small, (Option.some.inj built).symm⟩

/-- The datagram of a reply is the packet that was built. -/
theorem packet_of_sendReply
    {input : PollInput}
    {reply : Option (List UInt8)}
    {result : BacnetServerPollResult}
    {datagram : Datagram}
    (sent : (sendReply server input reply result).datagram = some datagram) :
    reply = some datagram.packet ∧ datagram.destination = input.source := by
  rw [sendReply_datagram] at sent
  obtain ⟨packet, built, rfl⟩ := Option.map_eq_some_iff.mp sent
  exact ⟨built, rfl⟩

theorem reply_readProperty
    {input : PollInput}
    {request : BacnetReadPropertyRequestHeader}
    {datagram : Datagram}
    (sent :
      (server.handleReadProperty input request).datagram = some datagram) :
    ConfirmedReply datagram.packet := by
  rcases server.handleReadProperty_datagram input request
    with ⟨error, _, reply⟩ | ⟨value, _, reply⟩
  · rw [reply] at sent
    obtain rfl := Option.some.inj sent
    exact .refused _ _ error
  · rw [reply] at sent
    obtain ⟨packet, built, rfl⟩ := Option.map_eq_some_iff.mp sent
    obtain ⟨_, values, _, _, rfl⟩ := ReadAnswer.build_eq_some_iff.mp built
    exact .answered request values

theorem reply_writeProperty
    {input : PollInput}
    {request : BacnetWritePropertyRequestHeader}
    {datagram : Datagram}
    (sent :
      (server.handleWriteProperty input request).datagram = some datagram) :
    ConfirmedReply datagram.packet := by
  rcases server.handleWriteProperty_cases input request
    with ⟨_, _, _, reply⟩ | ⟨error, _, _, reply⟩
  · rw [reply] at sent
    obtain rfl := Option.some.inj sent
    exact .acknowledged _ _
  · rw [reply] at sent
    obtain rfl := Option.some.inj sent
    exact .refused _ _ error

theorem reply_subscribeCov
    {input : PollInput}
    {request : BacnetSubscribeCovRequestHeader}
    {datagram : Datagram}
    (sent :
      (server.handleSubscribeCov input request).datagram = some datagram) :
    ConfirmedReply datagram.packet := by
  rcases (server.handleSubscribeCov_reply input request).2
    with reply | ⟨_, error, reply⟩
  · rw [reply] at sent
    obtain rfl := Option.some.inj sent
    exact .acknowledged _ _
  · rw [reply] at sent
    obtain rfl := Option.some.inj sent
    exact .refused _ _ error

theorem reply_confirmedRequest
    {input : PollInput}
    {invokeId : UInt8}
    {datagram : Datagram}
    (sent :
      (server.handleConfirmedRequest input invokeId).datagram =
        some datagram) :
    ConfirmedReply datagram.packet := by
  unfold handleConfirmedRequest at sent
  split at sent
  · cases sent
  · exact reply_readProperty sent
  · split at sent
    · cases sent
    · exact reply_writeProperty sent
    · split at sent
      · cases sent
      · exact reply_subscribeCov sent
      · obtain ⟨built, _⟩ := packet_of_sendReply sent
        have shape :
            rejectPacket invokeId kRejectReasonUnrecognizedService =
              datagram.packet :=
          Option.some.inj built
        exact shape ▸ .rejected invokeId

/-- A poll with a packet answers its sender with one of the replies. -/
theorem reply_poll
    {input : PollInput}
    (received : input.packet ≠ [])
    {datagram : Datagram}
    (sent : (server.poll input).datagram = some datagram) :
    ServerReply server input datagram.packet := by
  have nonempty : input.packet.isEmpty = false :=
    List.isEmpty_eq_false_iff.mpr received
  unfold poll at sent
  rw [nonempty] at sent
  split at sent
  · cases sent
  · rename_i isReady
    rw [if_neg Bool.false_ne_true] at sent
    split at sent
    · cases sent
    · split at sent
      · cases sent
      · unfold handleRequest at sent
        split at sent
        · rename_i parsed
          split at sent
          · rename_i includes
            obtain ⟨built, _⟩ := packet_of_sendReply sent
            obtain ⟨small, shape⟩ := announced_of_build built
            have ready : server.Ready := by
              simp only [Bool.or_eq_true, Bool.not_eq_true', not_or,
                Bool.not_eq_false] at isReady
              exact ⟨isReady.1, isReady.2⟩
            rw [shape]
            exact .announced ⟨ready, parsed, includes, small⟩
          · cases sent
        · split at sent
          · cases sent
          · cases sent
          · exact .confirmed (reply_confirmedRequest sent)

/-- What a slot of a server is announced with. -/
def notificationArguments
    (server : BacnetServer)
    (subscription : BacnetServerCovSubscription)
    (values : List BacnetCovPropertyValue)
    (now : UInt32) : CovNotificationArguments where
  processId := subscription.processId
  initiatingDevice := server.deviceObject
  monitoredObject := subscription.object
  timeRemainingSeconds := server.timeRemaining subscription now
  values := values
  confirmed := subscription.confirmed
  invokeId := server.drawInvokeId subscription.confirmed

/--
The slot an idle poll sends a notification for, with the state the scan left
behind in front of it.
-/
structure NotifiesWith
    (server : BacnetServer)
    (input : PollInput)
    (index : CovIndex)
    (after : CovSlot)
    (transmission : CovTransmission) : Prop where
  idle : input.packet = []
  visited :
    visitSlot server.objects server.device server.hasClock
        (server.nowMs input.clockMs) (server.covSlots index) =
      .send after transmission.values transmission.isRetransmission
  place : transmission.index = index
  built : (server.poll input).transmission = some transmission

/--
A datagram of an idle poll is the notification that was built for a slot,
sent to the subscriber of the slot.
-/
theorem notifies_of_idle
    {input : PollInput}
    (idle : input.packet = [])
    {datagram : Datagram}
    (sent : (server.poll input).datagram = some datagram) :
    ∃ index after transmission sender,
      server.NotifiesWith input index after transmission ∧
        datagram.destination = after.subscription.peer ∧
        (notificationArguments sender after.subscription transmission.values
          (server.nowMs input.clockMs)).build kMaxDatagramSize =
          some datagram.packet := by
  rcases server.poll_cases input
    with ⟨_, quiet, _⟩ | ⟨_, same⟩ | ⟨_, isReceived, _⟩ |
      ⟨_, isReceived, _⟩
  · exfalso
    unfold poll at sent quiet
    split at sent
    · cases sent
    · rename_i ready
      rw [if_neg ready] at quiet
      rw [idle] at sent quiet
      rcases server.processCovSubscriptions_cases input
        with ⟨_, same⟩ | ⟨_, _, _, _, _, _, same⟩
      · change (server.processCovSubscriptions input).datagram = _ at sent
        rw [same] at sent
        cases sent
      · change (server.processCovSubscriptions input).transmission = _
          at quiet
        rw [same] at quiet
        cases quiet
  · rcases server.processCovSubscriptions_cases input
      with ⟨_, quiet⟩ |
        ⟨index, after, values, isRetransmission, _, sends, notifies⟩
    · rw [same, quiet] at sent
      cases sent
    · rw [same, notifies] at sent
      obtain ⟨packet, built, rfl⟩ := Option.map_eq_some_iff.mp sent
      have transmitted :
          ∃ transmission,
            (server.poll input).transmission = some transmission ∧
              transmission.index = index ∧
              transmission.values = values ∧
              transmission.isRetransmission = isRetransmission := by
        rw [same, notifies]
        exact ⟨_, rfl, rfl, rfl, rfl⟩
      obtain ⟨transmission, isBuilt, place, rfl, rfl⟩ := transmitted
      exact ⟨index, after, transmission, _,
        ⟨idle, sends, place, isBuilt⟩, rfl, built⟩
  · exact absurd idle isReceived
  · exact absurd idle isReceived

/-- A client only takes the datagram of an idle poll for a notification. -/
theorem notifies_of_parsed
    {input : PollInput}
    {datagram : Datagram}
    (sent : (server.poll input).datagram = some datagram)
    {notification : BacnetCovNotification}
    (parsed : parseCovNotification datagram.packet = some notification) :
    ∃ index after transmission sender,
      server.NotifiesWith input index after transmission ∧
        datagram.destination = after.subscription.peer ∧
        (notificationArguments sender after.subscription transmission.values
          (server.nowMs input.clockMs)).build kMaxDatagramSize =
          some datagram.packet := by
  by_cases received : input.packet ≠ []
  · rw [(reply_poll received sent).no_notification] at parsed
    cases parsed
  · exact notifies_of_idle (not_not.mp received) sent

/--
A client only takes a datagram for an announcement that answers a Who-Is, and
the announcement says how the server is configured.
-/
theorem asked_of_parsed
    {input : PollInput}
    {datagram : Datagram}
    (sent : (server.poll input).datagram = some datagram)
    {device : BacnetIAmDeviceInfo}
    (parsed : parseIAmResponse datagram.packet = some device) :
    (∃ whoIs, server.Asked input whoIs) ∧ device = server.announcement := by
  by_cases received : input.packet ≠ []
  · have reply := reply_poll received sent
    generalize datagram.packet = packet at reply parsed
    cases reply with
    | confirmed reply =>
        rw [reply.no_announcement] at parsed
        cases parsed
    | announced asked =>
        have small : server.announcement.deviceInstance ≤
            kObjectInstanceMask := asked.small
        rw [parseIAmResponse_announced small] at parsed
        exact ⟨⟨_, asked⟩, (Option.some.inj parsed).symm⟩
  · obtain ⟨_, _, _, _, _, _, built⟩ :=
      notifies_of_idle (not_not.mp received) sent
    rw [no_announcement_of_build built] at parsed
    cases parsed

end BacnetServer

/--
A parsed notification within the capacity of the client says what the builder
was given, up to the way each value is received.
-/
theorem parsed_of_build
    {arguments : CovNotificationArguments}
    {bufferSize : Nat}
    {packet : List UInt8}
    (few : arguments.values.length ≤ kMaxCovNotificationProperties)
    (objectType : arguments.monitoredObject.type ≤ 1023)
    (built : arguments.build bufferSize = some packet)
    {notification : BacnetCovNotification}
    (parsed : parseCovNotification packet = some notification) :
    notification.processId = arguments.processId ∧
      notification.object = arguments.monitoredObject ∧
      notification.confirmed = arguments.confirmed ∧
      notification.properties = arguments.values.map receivedEntry := by
  obtain ⟨objectInstance, nonempty, octets, encodes, rfl⟩ :=
    CovNotificationArguments.build_eq_some built
  obtain ⟨accepted, refused⟩ :=
    parseCovNotification_packet encodes few nonempty
  have single : ∀ entry ∈ arguments.values, ¬entry.ReadsAsList := by
    intro entry member listed
    rw [refused ⟨entry, member, listed⟩] at parsed
    cases parsed
  rw [accepted single] at parsed
  obtain rfl := Option.some.inj parsed
  obtain ⟨process, object, confirmed, _⟩ :=
    reportAll_header arguments.header false
      (arguments.values.map receivedEntry)
  have packed :
      decodeObjectId (encodeObjectId arguments.monitoredObject) =
        arguments.monitoredObject :=
    (decodeObjectId_encodeObjectId_eq_self_iff objectInstance).mpr objectType
  refine ⟨process, object.trans packed, confirmed, ?_⟩
  apply properties_reportAll
  rw [List.length_map]
  exact (Nat.zero_add _).trans_le few

end BacnetStack
