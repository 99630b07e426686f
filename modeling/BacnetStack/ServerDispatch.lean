import BacnetStack.ProtocolReadAck
import BacnetStack.ServerCovAcknowledgement
import BacnetStack.ServerCovTable

namespace BacnetStack

/-!
# What a received packet can do

A poll that receives a packet ends in one of five ways.  Each of them changes
at most one part of the server, and which one can be told from the reply.
-/

namespace BacnetServer

variable (server : BacnetServer)

/-- The ways a poll with a packet can end. -/
inductive Dispatch (input : PollInput) : PollOutput → Prop where
  | quiet
      (result : BacnetServerPollResult) :
      Dispatch input (server.silent result)
  | completed
      (index : CovIndex)
      (answered : server.answeredSlot? input = some index) :
      Dispatch input
        ((server.setSlot index
          (server.completeSlot input
            (server.covSlots index))).silent .ignored)
  | answered
      (reply : Option (List UInt8))
      (sent : BacnetServerPollResult) :
      Dispatch input (sendReply server input reply sent)
  | written
      (request : BacnetWritePropertyRequestHeader)
      (parsed : parseWritePropertyRequest input.packet = .parsed request) :
      Dispatch input (server.handleWriteProperty input request)
  | subscribed
      (request : BacnetSubscribeCovRequestHeader)
      (parsed : parseSubscribeCovRequest input.packet = .parsed request) :
      Dispatch input (server.handleSubscribeCov input request)

/-- A confirmed request goes to the service that knows it. -/
theorem dispatch_confirmed
    (input : PollInput)
    (invokeId : UInt8) :
    server.Dispatch input (server.handleConfirmedRequest input invokeId) := by
  unfold handleConfirmedRequest
  split
  · exact .quiet _
  · rename_i request parsed
    unfold handleReadProperty
    dsimp only
    split
    · exact .answered _ _
    · exact .answered _ _
  · split
    · exact .quiet _
    · rename_i request parsed
      exact .written request parsed
    · split
      · exact .quiet _
      · rename_i request parsed
        exact .subscribed request parsed
      · exact .answered _ _

/-- Every poll with a packet ends in one of these ways. -/
theorem dispatch_poll
    {input : PollInput}
    (received : input.packet ≠ []) :
    server.Dispatch input (server.poll input) := by
  have nonempty : input.packet.isEmpty = false :=
    List.isEmpty_eq_false_iff.mpr received
  unfold poll
  split
  · exact .quiet _
  · rw [if_neg (by simp [nonempty])]
    split
    · exact .quiet _
    · split
      · rename_i index answered
        exact .completed index answered
      · unfold handleRequest
        split
        · split
          · exact .answered _ _
          · exact .quiet _
        · split
          · exact .quiet _
          · exact .quiet _
          · exact server.dispatch_confirmed input _

/-- A ready server receives a ReadProperty request. -/
structure ReceivesRead
    (input : PollInput)
    (request : BacnetReadPropertyRequestHeader) : Prop where
  ready : server.Ready
  fits : input.packet.length ≤ kMaxDatagramSize
  parsed : parseReadPropertyRequest input.packet = .parsed request

/-- A ready server receives a WriteProperty request. -/
structure ReceivesWrite
    (input : PollInput)
    (request : BacnetWritePropertyRequestHeader) : Prop where
  ready : server.Ready
  fits : input.packet.length ≤ kMaxDatagramSize
  parsed : parseWritePropertyRequest input.packet = .parsed request

variable {server}

/-- A ready server answers the ReadProperty requests it receives. -/
theorem poll_read
    {input : PollInput}
    {request : BacnetReadPropertyRequestHeader}
    (received : server.ReceivesRead input request) :
    server.poll input = server.handleReadProperty input request := by
  obtain ⟨confirmed, header, _, _⟩ :=
    parseConfirmedService_parsed received.parsed
  simp only [server.poll_confirmed received.ready received.fits header,
    handleConfirmedRequest, received.parsed]

/-- An identifier that was decoded can be encoded again. -/
theorem addressable_decodeObjectId
    (objectIdentifier : UInt32) :
    Addressable (decodeObjectId objectIdentifier) := by
  constructor
  · rw [UInt16.le_iff_toNat_le]
    have shifted :
        (decodeObjectId objectIdentifier).type.toNat =
          objectIdentifier.toNat / 2 ^ 22 % 2 ^ 16 := by
      simp [decodeObjectId, Nat.shiftRight_eq_div_pow]
    have bound := objectIdentifier.toNat_lt
    change (decodeObjectId objectIdentifier).type.toNat ≤ 1023
    omega
  · rw [UInt32.le_iff_toNat_le]
    change (objectIdentifier &&& kObjectInstanceMask).toNat ≤ _
    rw [UInt32.toNat_and]
    exact Nat.and_le_right

/-- The object of a received request can be named in the reply. -/
theorem ReceivesRead.addressable
    {input : PollInput}
    {request : BacnetReadPropertyRequestHeader}
    (received : server.ReceivesRead input request) :
    Addressable request.request.object := by
  obtain ⟨_, _, _, parsed⟩ := parseConfirmedService_parsed received.parsed
  obtain ⟨_, parsed⟩ := Reader.parse?_eq_some_iff.mp parsed
  rw [readPropertyRequestBody, Reader.run_bind_eq_ok_iff] at parsed
  obtain ⟨⟨object, property⟩, middle, reference, parsed⟩ := parsed
  have sameObject : request.request.object = object := by
    rw [Reader.run_bind_eq_ok_iff] at parsed
    obtain ⟨_, _, _, parsed⟩ := parsed
    dsimp only at parsed
    split at parsed
    all_goals
      rw [Reader.run_bind_eq_ok_iff] at parsed
      obtain ⟨_, _, _, parsed⟩ := parsed
      rw [Reader.run_bind_eq_ok_iff] at parsed
      obtain ⟨_, _, _, parsed⟩ := parsed
      cases parsed
      rfl
  rw [readObjectAndProperty, Reader.run_bind_eq_ok_iff] at reference
  obtain ⟨objectIdentifier, _, _, reference⟩ := reference
  rw [Reader.run_bind_eq_ok_iff] at reference
  obtain ⟨_, _, _, reference⟩ := reference
  rw [Reader.run_bind_eq_ok_iff] at reference
  obtain ⟨_, _, _, reference⟩ := reference
  cases reference
  rw [sameObject]
  exact addressable_decodeObjectId objectIdentifier

/-- A ready server answers the WriteProperty requests it receives. -/
theorem poll_write
    {input : PollInput}
    {request : BacnetWritePropertyRequestHeader}
    (received : server.ReceivesWrite input request) :
    server.poll input = server.handleWriteProperty input request := by
  obtain ⟨confirmed, header, service, _⟩ :=
    parseConfirmedService_parsed received.parsed
  have notRead : confirmed.serviceChoice ∉ [kServiceReadProperty] := by
    intro read
    rw [List.mem_singleton.mp read] at service
    revert service
    decide
  simp only [server.poll_confirmed received.ready received.fits header,
    handleConfirmedRequest, parseReadPropertyRequest,
    parseConfirmedService_unrelated header notRead, received.parsed]

/-- A reply that was built goes to the sender. -/
theorem sendReply_datagram
    (input : PollInput)
    (reply : Option (List UInt8))
    (sent : BacnetServerPollResult) :
    (sendReply server input reply sent).datagram =
      reply.map fun packet => ⟨input.source, packet⟩ := by
  cases reply <;> rfl

/-- The errors a write is refused with are small numbers. -/
theorem writeProperty_error_small
    {objects : ServerObjects}
    {request : BacnetWritePropertyRequestHeader}
    {error : BacnetError}
    (refused : objects.writeProperty request = .error error) :
    error.1 ≤ 0xFF ∧ error.2 ≤ 0xFF := by
  unfold ServerObjects.writeProperty at refused
  split at refused
  · cases refused
    decide
  · dsimp only at refused
    repeat' split at refused
    all_goals
      cases refused
      try decide

/-- A write is acknowledged, or refused with an error and no effect. -/
theorem handleWriteProperty_cases
    (input : PollInput)
    (request : BacnetWritePropertyRequestHeader) :
    (∃ effect,
      server.objects.writeProperty request = .ok effect ∧
      (server.handleWriteProperty input request).server =
        { server with objects := effect.objects } ∧
      (server.handleWriteProperty input request).datagram =
        some ⟨input.source,
          simpleAckPacket request.invokeId kServiceWriteProperty⟩) ∨
    ∃ error,
      server.objects.writeProperty request = .error error ∧
      (server.handleWriteProperty input request).server = server ∧
      (server.handleWriteProperty input request).datagram =
        some ⟨input.source,
          serviceErrorPacket request.invokeId kServiceWriteProperty
            error.1 error.2⟩ := by
  unfold handleWriteProperty
  cases outcome : server.objects.writeProperty request with
  | ok effect =>
      refine .inl ⟨effect, rfl, ?_, ?_⟩
      · rw [sendReply_server]
      · rw [sendReply_datagram, buildWritePropertyAck,
          buildSimpleAckResponse_eq, Option.map_some]
  | error error =>
      obtain ⟨smallClass, smallCode⟩ := writeProperty_error_small outcome
      refine .inr ⟨error, rfl, ?_, ?_⟩
      · rw [sendReply_server]
      · rw [sendReply_datagram, buildWritePropertyError,
          buildServiceErrorResponse_eq smallClass smallCode,
          Option.map_some]

/-- A subscribe request is acknowledged, or refused and has no effect. -/
theorem handleSubscribeCov_reply
    (input : PollInput)
    (request : BacnetSubscribeCovRequestHeader) :
    (server.handleSubscribeCov input request).server.objects =
        server.objects ∧
      ((server.handleSubscribeCov input request).datagram =
          some ⟨input.source,
            simpleAckPacket request.invokeId request.serviceChoice⟩ ∨
        (server.handleSubscribeCov input request).server = server ∧
          ∃ error : BacnetError,
            (server.handleSubscribeCov input request).datagram =
              some ⟨input.source,
                serviceErrorPacket request.invokeId
                  request.serviceChoice error.1 error.2⟩) := by
  have acknowledged (after : BacnetServer) :
      (after.acknowledgeSubscribe input request).datagram =
        some ⟨input.source,
          simpleAckPacket request.invokeId request.serviceChoice⟩ := by
    rw [acknowledgeSubscribe, buildSimpleAckResponse_eq]
    rfl
  unfold handleSubscribeCov
  cases refused : request.refusal server.objects with
  | some error =>
      obtain ⟨unchanged, reply⟩ :=
        @refuseSubscribe_output server input request error
          (refusal_small refused)
      dsimp only
      exact ⟨by rw [unchanged], .inr ⟨unchanged, error, reply⟩⟩
  | none =>
      dsimp only
      split
      · split
        · exact ⟨by simp [acknowledgeSubscribe], .inl (acknowledged _)⟩
        · exact ⟨by simp [acknowledgeSubscribe], .inl (acknowledged _)⟩
      · split
        · rename_i index _
          exact ⟨by simp [acknowledgeSubscribe],
            .inl (acknowledged (server.setSlot index
              (activatedSlot input.source request
                (server.expiryDeadline input request.lifetimeSeconds)
                (server.covSlots index))))⟩
        · obtain ⟨unchanged, reply⟩ :=
            @refuseSubscribe_output server input request noSpaceError
              (by decide)
          exact ⟨by rw [unchanged], .inr ⟨unchanged, noSpaceError, reply⟩⟩

/-- The packet answers the pending notification of a slot. -/
def AnswersPending (input : PollInput) : Prop :=
  ∃ index,
    (server.covSlots index).subscription.state = .awaitingConfirmedAck ∧
    (server.covSlots index).subscription.peer = input.source ∧
    classifyConfirmedCovNotificationResponse input.packet
      (server.covSlots index).subscription.pendingInvokeId ≠ .none

/--
What a poll with a packet may send and change: one datagram to the sender, an
object only with the acknowledgement of a write, the table only with the
acknowledgement of a subscribe request or for the answer to a notification,
and nothing at all in every other case.
-/
structure Framed
    (server : BacnetServer)
    (input : PollInput)
    (output : PollOutput) : Prop where
  destination :
    ∀ datagram,
      output.datagram = some datagram →
      datagram.destination = input.source
  objects :
    output.server.objects ≠ server.objects →
    ∃ invokeId,
      output.datagram =
        some ⟨input.source,
          simpleAckPacket invokeId kServiceWriteProperty⟩
  covSlots :
    output.server.covSlots ≠ server.covSlots →
    (∃ invokeId service,
      service ∈ [kServiceSubscribeCov, kServiceSubscribeCovProperty] ∧
      output.datagram =
        some ⟨input.source, simpleAckPacket invokeId service⟩) ∨
    server.AnswersPending input
  otherwise :
    (∀ invokeId service,
      output.datagram ≠
        some ⟨input.source, simpleAckPacket invokeId service⟩) →
    ¬server.AnswersPending input →
    output.server = server

/-- An output that changes nothing and answers the sender is framed. -/
theorem Framed.of_unchanged
    {input : PollInput}
    {output : PollOutput}
    (destination :
      ∀ datagram,
        output.datagram = some datagram →
        datagram.destination = input.source)
    (unchanged : output.server = server) :
    Framed server input output where
  destination := destination
  objects := fun changed => (changed (by rw [unchanged])).elim
  covSlots := fun changed => (changed (by rw [unchanged])).elim
  otherwise := fun _ _ => unchanged

/-- A reply to the sender has his address. -/
private theorem destination_of_eq_some
    {input : PollInput}
    {output : PollOutput}
    {packet : List UInt8}
    (built : output.datagram = some ⟨input.source, packet⟩)
    (datagram : Datagram)
    (sent : output.datagram = some datagram) :
    datagram.destination = input.source := by
  obtain rfl := Option.some.inj (built.symm.trans sent)
  rfl

/-- Each way a poll can end keeps to the frame. -/
theorem Dispatch.framed
    {input : PollInput}
    {output : PollOutput}
    (dispatched : server.Dispatch input output) :
    Framed server input output := by
  cases dispatched with
  | quiet result =>
      exact .of_unchanged (fun _ sent => (by cases sent)) rfl
  | completed index answered =>
      have pending : server.AnswersPending input := by
        have answers :
            slotResponse input (server.covSlots index) ≠ .none :=
          bne_iff_ne.mp (List.find?_finRange_eq_some_iff.mp answered).1
        unfold slotResponse at answers
        dsimp only at answers
        split at answers
        · rename_i waits
          exact ⟨index, waits.1, waits.2, answers⟩
        · exact (answers rfl).elim
      exact ⟨fun _ sent => (by cases sent),
        fun changed => (changed rfl).elim, fun _ => .inr pending,
        fun _ unanswered => (unanswered pending).elim⟩
  | answered reply sent =>
      refine .of_unchanged (fun datagram built => ?_)
        (sendReply_server _ _ _ _)
      rw [sendReply_datagram, Option.map_eq_some_iff] at built
      obtain ⟨_, _, rfl⟩ := built
      rfl
  | written request parsed =>
      rcases server.handleWriteProperty_cases input request
        with ⟨effect, _, after, built⟩ | ⟨error, _, after, built⟩
      · refine ⟨destination_of_eq_some built,
          fun _ => ⟨request.invokeId, built⟩, fun changed => ?_,
          fun noAck _ => (noAck _ _ built).elim⟩
        rw [after] at changed
        exact (changed rfl).elim
      · exact .of_unchanged (destination_of_eq_some built) after
  | subscribed request parsed =>
      obtain ⟨sameObjects, accepted | ⟨unchanged, error, built⟩⟩ :=
        server.handleSubscribeCov_reply input request
      · refine ⟨destination_of_eq_some accepted,
          fun changed => (changed sameObjects).elim,
          fun _ => .inl ⟨request.invokeId, request.serviceChoice, ?_,
            accepted⟩,
          fun noAck _ => (noAck _ _ accepted).elim⟩
        unfold BacnetSubscribeCovRequestHeader.serviceChoice
        split
        · simp
        · simp
      · exact .of_unchanged (destination_of_eq_some built) unchanged

/-- The frame of a poll that receives a packet, in every state. -/
theorem poll_framed
    (server : BacnetServer)
    {input : PollInput}
    (received : input.packet ≠ []) :
    Framed server input (server.poll input) :=
  (server.dispatch_poll received).framed

/-- A running server is left as it was by a cut-off packet. -/
theorem truncated_packet_framed :
    ((EventRun.run step {} (startedServer (oneAnalogValue .zero))).poll
        { packet := [0x81, 0x0A] }).server =
      EventRun.run step {} (startedServer (oneAnalogValue .zero)) := by
  refine (poll_framed _ (by decide)).otherwise ?_ ?_
  · intro invokeId service acknowledged
    cases acknowledged
  · rintro ⟨index, awaiting, _⟩
    cases awaiting

end BacnetServer

end BacnetStack
