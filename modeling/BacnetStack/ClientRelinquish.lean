import BacnetStack.ClientExchange
import BacnetStack.ClientRemoteObject
import BacnetStack.ServerRelinquish

namespace BacnetStack

/-!
# Releasing the priorities of a server's object

The client releases one priority after another over a link that may lose
requests and replies.  Whatever is lost, an acknowledged release has reached
the server, and a release that was not acknowledged is the last one.
-/

namespace BacnetServer

/-- The commands of one object are the same on two servers. -/
def SameCommands
    (object : BacnetObjectId)
    (left right : BacnetServer) : Prop :=
  left.objects.commandTable object = right.objects.commandTable object

/--
What becomes of a packet, of the reply to it and of the server, where nobody
else changes the commands of an object.
-/
inductive Exchanged
    (object : BacnetObjectId)
    (server : BacnetServer)
    (packet : List UInt8) :
    Option (List UInt8) → BacnetServer → Prop where
  | requestLost
      {next : BacnetServer}
      (same : SameCommands object next server) :
      Exchanged object server packet none next
  | replyLost
      {running next : BacnetServer}
      {input : PollInput}
      (ready : running.Ready)
      (same : SameCommands object running server)
      (isPacket : input.packet = packet)
      (after : SameCommands object next (running.poll input).server) :
      Exchanged object server packet none next
  | replied
      {running next : BacnetServer}
      {input : PollInput}
      {reply : List UInt8}
      (ready : running.Ready)
      (same : SameCommands object running server)
      (isPacket : input.packet = packet)
      (replies :
        (running.poll input).datagram.map Datagram.packet = some reply)
      (after : SameCommands object next (running.poll input).server) :
      Exchanged object server packet (some reply) next

end BacnetServer

/-- A datagram that no write takes for a response. -/
def NoWriteResponse (datagram : ReceivedDatagram) : Prop :=
  ∀ invokeId,
    classifyWritePropertyResponse datagram.packet invokeId = .unrelated

/--
A link to a server that may lose a request or the reply to it, and otherwise
delivers both before the time of the call is over.  Nobody else changes the
commands of the object.  The transport between two exchanges goes with a
state of the server.
-/
structure LossyLink {τ : Type}
    (runtime : ClientRuntime τ)
    (peer : BacnetIpEndpoint)
    (timeoutMs : UInt32)
    (object : BacnetObjectId)
    (atRest : BacnetServer → τ → Prop) : Prop where
  exchange :
    ∀ {server transport packet},
      atRest server transport →
        (∃ refused next,
          runtime.send transport peer packet = (false, refused) ∧
            next.SameCommands object server ∧
            atRest next refused) ∨
        ∃ sent reply next least,
          runtime.send transport peer packet = (true, sent) ∧
            server.Exchanged object packet reply next ∧
            ReplyWait.Ends
              { runtime := runtime
                startedAt := (runtime.nowMs sent).1
                timeoutMs := timeoutMs
                ignored := NoWriteResponse
                atRest := atRest next }
              (reply.map fun packet => ⟨peer, packet⟩) least
              (runtime.nowMs sent).2

namespace BacnetClient

variable {τ : Type} {runtime : ClientRuntime τ}

/-- What ends a write with options. -/
def writeResponse
    (invokeId : UInt8)
    (datagram : ReceivedDatagram) :
    Option BacnetDeviceSessionWriteStatus :=
  writeEndWithOptions (writePropertyOutcome datagram.packet invokeId)

theorem listens_awaitedWrite
    (enabled : runtime.writePropertyEnabled = true)
    (invokeId : UInt8) :
    Listens runtime (awaitedWrite runtime writeEndWithOptions invokeId)
      (writeResponse invokeId) := by
  intro client running
  unfold awaitedWrite pollWriteProperty pollDatagram
  simp only [enabled, running, Bool.not_true, Bool.false_eq_true, if_false,
    if_true]
  rcases client.receive runtime with ⟨received, after⟩
  cases received with
  | none => rfl
  | some datagram => rfl

/-- A write that is not handed to the transport changes nothing. -/
theorem sendWritePropertyWithOptions_cases
    (client : BacnetClient τ)
    (destination : BacnetIpEndpoint)
    (object : BacnetObjectId)
    (property : BacnetPropertyId)
    (value : BacnetValue)
    (options : BacnetWritePropertyOptions)
    (invokeId : UInt8) :
    (∃ status,
      client.sendWritePropertyWithOptions runtime destination object
          property value options invokeId = (status, client) ∧
        status ≠ .none) ∨
    ∃ packet after,
      buildWritePropertyRequest 544 object property value options invokeId =
          some packet ∧
        after.running = true ∧
        after.transport =
          (runtime.send client.transport destination packet).2 ∧
        client.sendWritePropertyWithOptions runtime destination object
            property value options invokeId =
          (if (runtime.send client.transport destination packet).1 then .none
            else .sendFailed, after) := by
  unfold sendWritePropertyWithOptions
  split
  · exact .inl ⟨_, rfl, nofun⟩
  · split
    · exact .inl ⟨_, rfl, nofun⟩
    · rename_i canSend
      have running : client.running = true := by
        by_contra stopped
        exact canSend (by simp [stopped])
      split
      · exact .inl ⟨_, rfl, nofun⟩
      · unfold sendWriteRequest
        split
        · exact .inl ⟨_, rfl, nofun⟩
        · rename_i packet built
          rcases sends : runtime.send client.transport destination packet
            with ⟨accepted, transport⟩
          refine .inr ⟨packet, { client with
            transport := transport
            traffic := .sent destination packet accepted ::
              client.traffic }, built, running, by rw [sends], ?_⟩
          unfold send
          rw [sends]
          cases accepted <;> rfl

end BacnetClient

/-- A write that was not sent is not reported as acknowledged. -/
theorem writeNotSentWithOptions_of_failed
    {status : BacnetWritePropertyPollStatus}
    (failed : status ≠ .none) :
    ∃ reported,
      writeNotSentWithOptions status = some reported ∧ reported ≠ .ack := by
  cases status with
  | none => exact absurd rfl failed
  | _ => exact ⟨_, rfl, nofun⟩

/-- A reply of the server ends the write, and only an acknowledgement is one. -/
theorem writeResponse_simpleAckPacket
    (peer : BacnetIpEndpoint)
    (invokeId : UInt8) :
    BacnetClient.writeResponse invokeId
        ⟨peer, simpleAckPacket invokeId kServiceWriteProperty⟩ =
      some .ack := by
  rw [BacnetClient.writeResponse, writePropertyOutcome,
    classifyWritePropertyResponse_simpleAckPacket]
  rfl

theorem writeResponse_serviceErrorPacket
    (peer : BacnetIpEndpoint)
    (invokeId : UInt8)
    (errorClass errorCode : UInt32) :
    ∃ status,
      BacnetClient.writeResponse invokeId
          ⟨peer, serviceErrorPacket invokeId kServiceWriteProperty errorClass
            errorCode⟩ = some status ∧ status ≠ .ack := by
  rw [BacnetClient.writeResponse, writePropertyOutcome,
    classifyWritePropertyResponse_serviceErrorPacket]
  dsimp only
  split
  · exact ⟨_, rfl, nofun⟩
  · exact ⟨_, rfl, nofun⟩

/-- What a release reports, and what it leaves on the server. -/
inductive Released
    (commands : Commands)
    (rank : Fin kSlotCount) :
    BacnetDeviceSessionWriteStatus → Commands → Prop where
  | acknowledged : Released commands rank .ack (commands.assign rank none)
  | unreported
      {status : BacnetDeviceSessionWriteStatus}
      (failed : status ≠ .ack) :
      Released commands rank status (commands.assign rank none)
  | unchanged
      {status : BacnetDeviceSessionWriteStatus}
      (failed : status ≠ .ack) :
      Released commands rank status commands

/-- What an exchange of a release brings, and what it leaves behind. -/
theorem released_of_exchanged
    {object : BacnetObjectId}
    {server next : BacnetServer}
    {commands : Commands}
    (held : server.objects.commandTable object = some commands)
    {priority invokeId : UInt8}
    {rank : Fin kSlotCount}
    (addressed : BacnetCommandPriority.slotIndex? priority = some rank)
    {packet : List UInt8}
    (built :
      buildWritePropertyRequest 544 object .presentValue { type := .null }
        { hasPriority := true, priority := priority } invokeId =
          some packet)
    {reply : Option (List UInt8)}
    (exchanged : server.Exchanged object packet reply next)
    (peer : BacnetIpEndpoint) :
    ∃ status after,
      (reply.map fun packet => (⟨peer, packet⟩ : ReceivedDatagram)).elim
          (some .timeout) (BacnetClient.writeResponse invokeId) =
        some status ∧
      next.objects.commandTable object = some after ∧
      Released commands rank status after := by
  have positive : priority ≠ 0 := by
    rintro rfl
    exact nomatch addressed
  obtain ⟨request, parsed, isInvokeId, relinquishes⟩ :=
    BacnetServer.relinquishes_of_build positive built
  have fits : packet.length ≤ kMaxDatagramSize :=
    length_writeRequest_le built
  cases exchanged with
  | requestLost same =>
      exact ⟨.timeout, commands, rfl, same.trans held, .unchanged nofun⟩
  | replyLost ready same isPacket after =>
      subst isPacket
      have received := BacnetServer.ReceivesWrite.mk ready fits parsed
      rcases BacnetServer.poll_relinquish received relinquishes addressed
          (same.trans held) with ⟨assigned, -⟩ | ⟨kept, -⟩
      · exact ⟨.timeout, _, rfl, after.trans assigned, .unreported nofun⟩
      · exact ⟨.timeout, _, rfl, after.trans kept, .unchanged nofun⟩
  | replied ready same isPacket replies after =>
      subst isPacket
      have received := BacnetServer.ReceivesWrite.mk ready fits parsed
      rcases BacnetServer.poll_relinquish received relinquishes addressed
          (same.trans held) with ⟨assigned, isAck⟩ | ⟨kept, error, isError⟩
      · obtain rfl := Option.some.inj (replies.symm.trans isAck)
        rw [isInvokeId]
        exact ⟨.ack, _, writeResponse_simpleAckPacket peer invokeId,
          after.trans assigned, .acknowledged⟩
      · obtain rfl := Option.some.inj (replies.symm.trans isError)
        rw [isInvokeId]
        obtain ⟨status, isStatus, failed⟩ :=
          writeResponse_serviceErrorPacket peer invokeId error.1 error.2
        exact ⟨status, _, isStatus, after.trans kept, .unchanged failed⟩

namespace ClientSystem

variable {τ : Type} {runtime : ClientRuntime τ} {peer : BacnetIpEndpoint}
  {timeoutMs : UInt32} {object : BacnetObjectId}
  {atRest : BacnetServer → τ → Prop}

/-- A session of a server, with a link at rest and the object's commands. -/
structure Commanding
    (system : ClientSystem τ)
    (id : SessionId)
    (peer : BacnetIpEndpoint)
    (object : BacnetObjectId)
    (atRest : BacnetServer → τ → Prop)
    (commands : Commands) : Prop where
  endpoint : (system.sessions id).endpoint = peer
  server :
    ∃ server,
      atRest server system.client.transport ∧
        server.objects.commandTable object = some commands

/-- A write that was sent ends as its wait does. -/
theorem awaitWrite_of_ends
    (enabled : runtime.writePropertyEnabled = true)
    {system : ClientSystem τ}
    (running : system.client.running = true)
    {isAtRest : τ → Prop}
    {reply : Option ReceivedDatagram}
    {least : Nat}
    (ends :
      ReplyWait.Ends
        { runtime := runtime
          startedAt := (runtime.nowMs system.client.transport).1
          timeoutMs := timeoutMs
          ignored := NoWriteResponse
          atRest := isAtRest }
        reply least (runtime.nowMs system.client.transport).2)
    {invokeId : UInt8}
    {status : BacnetDeviceSessionWriteStatus}
    (reports :
      reply.elim (some .timeout) (BacnetClient.writeResponse invokeId) =
        some status) :
    ∃ after : BacnetClient τ,
      isAtRest after.transport ∧
        ∀ rounds, least ≤ rounds →
          system.awaitWrite runtime invokeId writeEndWithOptions timeoutMs
              rounds =
            (some status, { system with client := after }) := by
  obtain ⟨after, atRest, finishes⟩ :=
    BacnetClient.await_of_ends
      (BacnetClient.listens_awaitedWrite enabled invokeId) rfl
      (fun datagram unrelated => by
        rw [BacnetClient.writeResponse, writePropertyOutcome,
          unrelated invokeId]
        rfl)
      (fun datagram isReply => by
        obtain rfl : reply = some datagram := isReply
        exact Option.isSome_iff_exists.mpr ⟨status, reports⟩)
      (show (system.client.nowMs runtime).2.running = true from running)
      ends
  refine ⟨after, atRest.transport, fun rounds enough => ?_⟩
  have waited := finishes rounds enough
  unfold awaitWrite
  dsimp only [onClient]
  rw [show (system.client.nowMs runtime).1 =
    (runtime.nowMs system.client.transport).1 from rfl, waited]
  cases reply with
  | none =>
      obtain rfl := Option.some.inj reports
      rfl
  | some datagram =>
      rw [BacnetClient.waitResult, Option.bind_some,
        show BacnetClient.writeResponse invokeId datagram = some status from
          reports]
      rfl

/-- A release is acknowledged, or it fails and may have reached the server. -/
theorem relinquishPresentValue_of_link
    (link : LossyLink runtime peer timeoutMs object atRest)
    {system : ClientSystem τ}
    {id : SessionId}
    {commands : Commands}
    (commanding : system.Commanding id peer object atRest commands)
    {priority : UInt8}
    {rank : Fin kSlotCount}
    (addressed : BacnetCommandPriority.slotIndex? priority = some rank) :
    ∃ least status left after,
      Released commands rank status left ∧
        after.Commanding id peer object atRest left ∧
        ∀ rounds, least ≤ rounds →
          system.relinquishPresentValue runtime id object priority timeoutMs
            rounds = (some status, after) := by
  obtain ⟨endpoint, server, isAtRest, held⟩ := commanding
  unfold relinquishPresentValue writePresentValue writePropertyWithOptions
  by_cases busy : (system.sessions id).isBusy = true
  · exact ⟨0, .busy, commands, system, .unchanged nofun,
      ⟨endpoint, server, isAtRest, held⟩, fun _ _ => if_pos busy⟩
  by_cases disabled :
      (!BacnetClient.writeEnabled runtime true) = true
  · refine ⟨0, .disabled, commands, system, .unchanged nofun,
      ⟨endpoint, server, isAtRest, held⟩, fun _ _ => ?_⟩
    rw [if_neg busy]
    exact if_pos disabled
  have enabled : runtime.writePropertyEnabled = true := by
    simp only [BacnetClient.writeEnabled, Bool.not_eq_true',
      Bool.not_eq_false, Bool.and_eq_true] at disabled
    exact disabled.1
  simp only [if_neg busy, if_neg disabled]
  rcases allocates : system.allocateInvokeId id with ⟨invokeId, allocated⟩
  have isAllocated : allocated = (system.allocateInvokeId id).2 := by
    rw [allocates]
  have session :
      allocated.sessions id = (system.sessions id).allocateInvokeId.2 := by
    rw [isAllocated]
    exact sessions_setSession_self ..
  have allocatedEndpoint : (allocated.sessions id).endpoint = peer := by
    rw [session]
    exact endpoint
  have client : allocated.client = system.client := by
    rw [isAllocated]
    rfl
  dsimp only [onClient]
  rw [allocatedEndpoint, client]
  rcases BacnetClient.sendWritePropertyWithOptions_cases system.client peer
      object .presentValue { type := .null }
      { hasPriority := true, priority := priority } invokeId
    with ⟨status, unsent, failed⟩ |
      ⟨packet, after, built, running, isTransport, sent⟩
  · obtain ⟨reported, notSent, isFailed⟩ :=
      writeNotSentWithOptions_of_failed failed
    refine ⟨0, reported, commands,
      { allocated with client := system.client }, .unchanged isFailed,
      ⟨allocatedEndpoint, server, isAtRest, held⟩, fun _ _ => ?_⟩
    rw [unsent]
    simp only [notSent]
  · rw [sent]
    rcases link.exchange isAtRest
      with ⟨refused, next, sends, same, nextAtRest⟩ |
        ⟨sentTransport, reply, next, least, sends, exchanged, ends⟩
    · rw [sends] at isTransport ⊢
      refine ⟨0, .sendFailed, commands, { allocated with client := after },
        .unchanged nofun,
        ⟨allocatedEndpoint, next, isTransport ▸ nextAtRest,
          same.trans held⟩, fun _ _ => rfl⟩
    · rw [sends] at isTransport ⊢
      obtain ⟨status, left, reports, leftHeld, released⟩ :=
        released_of_exchanged held addressed built exchanged peer
      rw [← show after.transport = sentTransport from isTransport] at ends
      obtain ⟨final, finalAtRest, finishes⟩ :=
        @awaitWrite_of_ends τ runtime timeoutMs enabled
          { allocated with client := after } running _ _ least ends invokeId
          status reports
      exact ⟨least, status, left, { allocated with client := final },
        released,
        ⟨allocatedEndpoint, next, finalAtRest, leftHeld⟩, finishes⟩

end ClientSystem

/-! The releases of all priorities, one after the other. -/

/-- The number of a rank. -/
def priorityOf (rank : Fin kSlotCount) : UInt8 :=
  UInt8.ofNat (rank.val + 1)

theorem allPriorities_eq :
    ClientSystem.allPriorities =
      (List.finRange kSlotCount).map priorityOf := by
  decide

theorem slotIndex?_priorityOf (rank : Fin kSlotCount) :
    BacnetCommandPriority.slotIndex? (priorityOf rank) = some rank := by
  revert rank
  decide

/-- The options leave the slot of a rank alone. -/
def BacnetPriorityResetOptions.skips
    (options : BacnetPriorityResetOptions)
    (rank : Fin kSlotCount) : Bool :=
  options.skipMinimumOnOffPriority &&
    priorityOf rank == kMinimumOnOffPriority

/-- The ranks among some that are released. -/
def BacnetPriorityResetOptions.released
    (options : BacnetPriorityResetOptions)
    (ranks : List (Fin kSlotCount)) : List (Fin kSlotCount) :=
  ranks.filter fun rank => !options.skips rank

/--
The releases of some ranks: all were acknowledged, or the first that was not
is reported.
-/
inductive Relinquished
    (options : BacnetPriorityResetOptions)
    (result : BacnetPriorityRelinquishResult)
    (commands : Commands) :
    List (Fin kSlotCount) → BacnetPriorityRelinquishResult → Commands →
      Prop where
  | finished
      {ranks : List (Fin kSlotCount)}
      {outcome : BacnetPriorityRelinquishResult}
      (status : outcome.status = .ack)
      (failed : outcome.failedPriority = result.failedPriority)
      (completed :
        outcome.completedPriorities =
          result.completedPriorities +
            UInt8.ofNat (options.released ranks).length)
      (skipped :
        outcome.skippedPriority =
          if ranks.any options.skips then kMinimumOnOffPriority
          else result.skippedPriority) :
      Relinquished options result commands ranks outcome
        (commands.release (options.released ranks))
  | stopped
      {before later : List (Fin kSlotCount)}
      {rank : Fin kSlotCount}
      {outcome : BacnetPriorityRelinquishResult}
      {left : Commands}
      (notSkipped : options.skips rank = false)
      (failed : outcome.failedPriority = priorityOf rank)
      (completed :
        outcome.completedPriorities =
          result.completedPriorities +
            UInt8.ofNat (options.released before).length)
      (isLeft :
        left = commands.release (options.released before) ∨
          left =
            (commands.release (options.released before)).assign rank none) :
      Relinquished options result commands (before ++ rank :: later) outcome
        left

namespace Relinquished

variable {options : BacnetPriorityResetOptions}
  {result outcome : BacnetPriorityRelinquishResult}
  {commands left : Commands} {rest : List (Fin kSlotCount)}
  {rank : Fin kSlotCount}

/-- A rank in front that is skipped is noted. -/
theorem cons_skipped
    (isSkipped : options.skips rank = true)
    (relinquished :
      Relinquished options
        { result with skippedPriority := kMinimumOnOffPriority } commands
        rest outcome left) :
    Relinquished options result commands (rank :: rest) outcome left := by
  have released (ranks : List (Fin kSlotCount)) :
      options.released (rank :: ranks) = options.released ranks := by
    simp [BacnetPriorityResetOptions.released, isSkipped]
  cases relinquished with
  | finished status failed completed skipped =>
      rw [← released rest]
      refine .finished status failed ?_ ?_
      · rw [released, completed]
      · rw [skipped, List.any_cons, isSkipped]
        simp
  | stopped notSkipped failed completed isLeft =>
      rename_i before later stoppedAt
      refine @stopped _ _ _ (rank :: before) later stoppedAt _ _ notSkipped
        failed ?_ ?_
      · rw [released, completed]
      · rw [released]
        exact isLeft

/-- A rank in front whose release is acknowledged is counted. -/
theorem cons_acknowledged
    (notSkipped : options.skips rank = false)
    (relinquished :
      Relinquished options
        { result with
          status := .ack
          completedPriorities := result.completedPriorities + 1 }
        (commands.assign rank none) rest outcome left) :
    Relinquished options result commands (rank :: rest) outcome left := by
  have released (ranks : List (Fin kSlotCount)) :
      options.released (rank :: ranks) = rank :: options.released ranks := by
    simp [BacnetPriorityResetOptions.released, notSkipped]
  have counted (count : Nat) :
      result.completedPriorities + 1 + UInt8.ofNat count =
        result.completedPriorities + UInt8.ofNat (count + 1) := by
    rw [UInt8.ofNat_add, UInt8.add_assoc, UInt8.add_comm 1]
    rfl
  cases relinquished with
  | finished status failed completed skipped =>
      rw [← PriorityMap.release_cons, ← released]
      refine .finished status failed ?_ ?_
      · rw [completed, counted, released, List.length_cons]
      · rw [skipped, List.any_cons, notSkipped, Bool.false_or]
  | stopped stillNotSkipped failed completed isLeft =>
      rename_i before later stoppedAt
      refine @stopped _ _ _ (rank :: before) later stoppedAt _ _
        stillNotSkipped failed ?_ ?_
      · rw [completed, counted, released, List.length_cons]
      · rw [released, PriorityMap.release_cons]
        exact isLeft

end Relinquished

namespace ClientSystem

variable {τ : Type} {runtime : ClientRuntime τ} {peer : BacnetIpEndpoint}
  {timeoutMs : UInt32} {object : BacnetObjectId}
  {atRest : BacnetServer → τ → Prop}

/-- Over a lossy link the ranks are released up to the first failure. -/
theorem relinquishPriorities_of_link
    (link : LossyLink runtime peer timeoutMs object atRest)
    (options : BacnetPriorityResetOptions)
    {id : SessionId}
    (ranks : List (Fin kSlotCount))
    {system : ClientSystem τ}
    {commands : Commands}
    (commanding : system.Commanding id peer object atRest commands)
    (result : BacnetPriorityRelinquishResult)
    (acknowledged : result.status = .ack) :
    ∃ least outcome left after,
      Relinquished options result commands ranks outcome left ∧
        after.Commanding id peer object atRest left ∧
        ∀ rounds, least ≤ rounds →
          relinquishPriorities runtime id object options timeoutMs rounds
            (ranks.map priorityOf) result system = (some outcome, after) := by
  induction ranks generalizing system commands result with
  | nil =>
      refine ⟨0, result, commands.release [], system, ?_, ?_,
        fun _ _ => rfl⟩
      · exact @Relinquished.finished options result commands [] result
          acknowledged rfl (by simp [BacnetPriorityResetOptions.released])
          rfl
      · rwa [PriorityMap.release_nil]
  | cons rank rest inductionHypothesis =>
      cases skips : options.skips rank with
      | true =>
          obtain ⟨least, outcome, left, after, relinquished, holds, runs⟩ :=
            inductionHypothesis commanding
              { result with skippedPriority := kMinimumOnOffPriority }
              acknowledged
          refine ⟨least, outcome, left, after,
            relinquished.cons_skipped skips, holds, fun rounds enough => ?_⟩
          have isMinimum : priorityOf rank = kMinimumOnOffPriority := by
            simp only [BacnetPriorityResetOptions.skips, Bool.and_eq_true,
              beq_iff_eq] at skips
            exact skips.2
          rw [List.map_cons, relinquishPriorities]
          rw [if_pos (by exact skips), isMinimum]
          exact runs rounds enough
      | false =>
          obtain ⟨first, status, middle, next, released, goesOn, releases⟩ :=
            relinquishPresentValue_of_link link commanding
              (slotIndex?_priorityOf rank)
          have notSkipped :
              ¬(options.skipMinimumOnOffPriority &&
                priorityOf rank == kMinimumOnOffPriority) = true := by
            rw [show (options.skipMinimumOnOffPriority &&
              priorityOf rank == kMinimumOnOffPriority) = false from skips]
            exact Bool.false_ne_true
          have fails (failed : status ≠ .ack) :
              ∀ rounds, first ≤ rounds →
                relinquishPriorities runtime id object options timeoutMs
                    rounds ((rank :: rest).map priorityOf) result system =
                  (some
                    { result with
                      status := status
                      failedPriority := priorityOf rank }, next) := by
            intro rounds enough
            rw [List.map_cons, relinquishPriorities, if_neg notSkipped,
              releases rounds enough]
            exact if_pos failed
          have stops
              (left : Commands)
              (isLeft :
                left = commands ∨ left = commands.assign rank none) :
              Relinquished options result commands (rank :: rest)
                { result with
                  status := status
                  failedPriority := priorityOf rank } left :=
            @Relinquished.stopped options result commands [] rest rank _ left
              skips rfl (by simp [BacnetPriorityResetOptions.released])
              (by simpa [BacnetPriorityResetOptions.released] using isLeft)
          cases released with
          | acknowledged =>
              obtain ⟨others, outcome, left, after, relinquished, holds,
                runs⟩ :=
                inductionHypothesis goesOn
                  { result with
                    status := .ack
                    completedPriorities :=
                      result.completedPriorities + 1 } rfl
              refine ⟨max first others, outcome, left, after,
                relinquished.cons_acknowledged skips, holds,
                fun rounds enough => ?_⟩
              rw [List.map_cons, relinquishPriorities, if_neg notSkipped,
                releases rounds (le_trans (le_max_left _ _) enough)]
              exact runs rounds (le_trans (le_max_right _ _) enough)
          | unreported failed =>
              exact ⟨first, _, _, next, stops _ (.inr rfl), goesOn,
                fails failed⟩
          | unchanged failed =>
              exact ⟨first, _, _, next, stops _ (.inl rfl), goesOn,
                fails failed⟩

end ClientSystem

/-- Every slot was released, apart from one that is left alone. -/
structure ReleasedAll
    (options : BacnetPriorityResetOptions)
    (before : Commands)
    (target : WriteTarget)
    (result : BacnetPriorityRelinquishResult) : Prop where
  succeeded : result.succeeded = true
  free :
    ∀ rank, options.skips rank = false →
      target.commands.command rank = none
  untouched :
    ∀ rank, options.skips rank = true →
      target.commands.command rank = before.command rank
  default : target.commands.default = before.default
  value :
    ∀ rank, priorityOf rank = kMinimumOnOffPriority →
      target.effectiveValue =
        (if options.skipMinimumOnOffPriority then before.command rank
          else none).getD before.default

/-- The releases stopped at a priority. -/
structure StoppedAt
    (options : BacnetPriorityResetOptions)
    (before : Commands)
    (target : WriteTarget)
    (result : BacnetPriorityRelinquishResult)
    (failed : Fin kSlotCount) : Prop where
  unsuccessful : result.succeeded = false
  notSkipped : options.skips failed = false
  failedPriority : result.failedPriority.toNat = failed.val + 1
  earlier :
    ∀ rank, rank < failed → options.skips rank = false →
      target.commands.command rank = none
  later :
    ∀ rank, failed < rank →
      target.commands.command rank = before.command rank
  completed :
    result.completedPriorities.toNat =
      ((List.finRange kSlotCount).filter fun rank =>
        decide (rank < failed) && !options.skips rank).length

theorem toNat_priorityOf (rank : Fin kSlotCount) :
    (priorityOf rank).toNat = rank.val + 1 := by
  revert rank
  decide

/-- Counting the releases of all ranks. -/
theorem succeeded_of_finished
    {options : BacnetPriorityResetOptions}
    {outcome : BacnetPriorityRelinquishResult}
    (status : outcome.status = .ack)
    (failed : outcome.failedPriority = 0)
    (completed :
      outcome.completedPriorities =
        0 + UInt8.ofNat
          (options.released (List.finRange kSlotCount)).length)
    (skipped :
      outcome.skippedPriority =
        if (List.finRange kSlotCount).any options.skips then
          kMinimumOnOffPriority
        else 0) :
    outcome.succeeded = true := by
  rw [BacnetPriorityRelinquishResult.succeeded, status, failed, completed,
    skipped]
  obtain ⟨isSkipped⟩ := options
  cases isSkipped <;> decide

/-- The ranks in front of one, in the order of all ranks. -/
theorem mem_before_iff
    {before later : List (Fin kSlotCount)}
    {failed : Fin kSlotCount}
    (split : List.finRange kSlotCount = before ++ failed :: later)
    (rank : Fin kSlotCount) :
    rank ∈ before ↔ rank < failed := by
  have sorted := List.pairwise_lt_finRange kSlotCount
  rw [split, List.pairwise_append, List.pairwise_cons] at sorted
  obtain ⟨-, ⟨behind, -⟩, across⟩ := sorted
  constructor
  · intro isBefore
    exact across rank isBefore failed List.mem_cons_self
  · intro isEarlier
    have listed := List.mem_finRange rank
    rw [split, List.mem_append, List.mem_cons] at listed
    rcases listed with isBefore | rfl | isLater
    · exact isBefore
    · exact absurd isEarlier (lt_irrefl rank)
    · exact absurd isEarlier (lt_asymm (behind rank isLater))

theorem released_before
    {before later : List (Fin kSlotCount)}
    {failed : Fin kSlotCount}
    (split : List.finRange kSlotCount = before ++ failed :: later)
    (options : BacnetPriorityResetOptions) :
    options.released before =
      (List.finRange kSlotCount).filter fun rank =>
        decide (rank < failed) && !options.skips rank := by
  have sorted := List.pairwise_lt_finRange kSlotCount
  have isBefore := mem_before_iff split
  rw [split, List.pairwise_append, List.pairwise_cons] at sorted
  obtain ⟨-, ⟨behind, -⟩, -⟩ := sorted
  have none_behind :
      (failed :: later).filter (fun rank =>
        decide (rank < failed) && !options.skips rank) = [] := by
    rw [List.filter_eq_nil_iff]
    intro rank isMember
    rcases List.mem_cons.mp isMember with rfl | isLater
    · simp
    · simp [lt_asymm (behind rank isLater)]
  rw [split, List.filter_append, none_behind, List.append_nil,
    BacnetPriorityResetOptions.released]
  refine List.filter_congr fun rank isMember => ?_
  rw [decide_eq_true ((isBefore rank).mp isMember), Bool.true_and]

namespace Relinquished

variable {options : BacnetPriorityResetOptions}
  {outcome : BacnetPriorityRelinquishResult} {commands left : Commands}
  {target : WriteTarget}

/-- What the result says of all ranks is true of the object. -/
theorem report
    (relinquished :
      Relinquished options {} commands (List.finRange kSlotCount) outcome
        left)
    (isTarget : target.commands = left) :
    ReleasedAll options commands target outcome ∨
      ∃ failed, StoppedAt options commands target outcome failed := by
  generalize isAll : List.finRange kSlotCount = ranks at relinquished
  cases relinquished with
  | finished status failed completed skipped =>
      subst isAll
      have succeeded :=
        succeeded_of_finished status failed completed skipped
      have command (rank : Fin kSlotCount) :
          target.commands.command rank =
            if options.skips rank = false then none
            else commands.command rank := by
        rw [isTarget]
        simp [PriorityMap.release, BacnetPriorityResetOptions.released]
      have default : target.commands.default = commands.default := by
        rw [isTarget]
        rfl
      refine .inl ⟨succeeded, fun rank notSkipped => ?_,
        fun rank isSkipped => ?_, default, fun rank isMinimum => ?_⟩
      · rw [command, if_pos notSkipped]
      · rw [command, if_neg (by rw [isSkipped]; decide)]
      · have others (other : Fin kSlotCount) (another : other ≠ rank) :
            target.commands.command other = none := by
          have notMinimum : priorityOf other ≠ kMinimumOnOffPriority := by
            intro isMinimumToo
            refine another (Fin.ext (Nat.succ_inj.mp ?_))
            rw [Nat.succ_eq_add_one, ← toNat_priorityOf, isMinimumToo,
              ← isMinimum, toNat_priorityOf]
          rw [command, if_pos]
          simp [BacnetPriorityResetOptions.skips, notMinimum]
        rw [← WriteTarget.value_commands,
          PriorityMap.value_of_single rank others, default, command]
        simp only [BacnetPriorityResetOptions.skips, isMinimum,
          beq_self_eq_true, Bool.and_true]
        cases options.skipMinimumOnOffPriority <;> rfl
  | stopped notSkipped failed completed isLeft =>
      rename_i before later stoppedAt
      have isBefore := mem_before_iff isAll
      have released := released_before isAll options
      have command
          (rank : Fin kSlotCount)
          (another : rank ≠ stoppedAt) :
          target.commands.command rank =
            if rank ∈ options.released before then none
            else commands.command rank := by
        rw [isTarget]
        rcases isLeft with rfl | rfl
        · rfl
        · exact Function.update_of_ne another _ _
      have few : (options.released before).length ≤ kSlotCount := by
        rw [released]
        exact (List.length_filter_le _ _).trans_eq List.length_finRange
      have nonzero : outcome.failedPriority ≠ 0 := by
        intro isZero
        have number := toNat_priorityOf stoppedAt
        rw [← failed, isZero] at number
        exact absurd number (by simp)
      refine .inr ⟨stoppedAt, ?_, notSkipped, ?_, ?_, ?_, ?_⟩
      · rw [BacnetPriorityRelinquishResult.succeeded,
          beq_eq_false_iff_ne.mpr nonzero]
        rfl
      · rw [failed, toNat_priorityOf]
      · intro rank isEarlier released
        rw [command rank (ne_of_lt isEarlier), if_pos]
        exact List.mem_filter.mpr
          ⟨(isBefore rank).mpr isEarlier, by rw [released]; rfl⟩
      · intro rank isLater
        rw [command rank (ne_of_gt isLater), if_neg]
        intro isReleased
        have isEarlier :=
          (isBefore rank).mp (List.mem_filter.mp isReleased).1
        exact lt_asymm isEarlier isLater
      · rw [completed, ← released]
        show (0 + UInt8.ofNat _).toNat = _
        rw [UInt8.zero_add]
        exact UInt8.toNat_ofNat_of_lt' (Nat.lt_of_le_of_lt few (by decide))

end Relinquished

namespace ClientSystem

variable {τ : Type} {runtime : ClientRuntime τ} {peer : BacnetIpEndpoint}
  {timeoutMs : UInt32} {object : BacnetObjectId}
  {atRest : BacnetServer → τ → Prop}

/--
Whatever is lost on the way and whatever the server refuses, the result of
releasing all priorities says how far it got.
-/
theorem relinquishAllPriorities_reports
    (link : LossyLink runtime peer timeoutMs object atRest)
    {server : BacnetServer}
    {before : WriteTarget}
    (found : server.objects.findWriteTarget object = some before)
    {system : ClientSystem τ}
    {id : SessionId}
    (endpoint : (system.sessions id).endpoint = peer)
    (isAtRest : atRest server system.client.transport)
    (options : BacnetPriorityResetOptions) :
    ∃ least result after next target,
      atRest next after.client.transport ∧
        next.objects.findWriteTarget object = some target ∧
        (ReleasedAll options before.commands target result ∨
          ∃ failed,
            StoppedAt options before.commands target result failed) ∧
        ∀ rounds, least ≤ rounds →
          system.relinquishAllPriorities runtime id object options timeoutMs
            rounds = (some result, after) := by
  have held :
      server.objects.commandTable object = some before.commands := by
    rw [ServerObjects.commandTable, found]
    rfl
  obtain ⟨least, outcome, left, after, relinquished, ⟨-, next, nextAtRest,
    isLeft⟩, runs⟩ :=
    relinquishPriorities_of_link link options
      (List.finRange kSlotCount) ⟨endpoint, server, isAtRest, held⟩ {} rfl
  obtain ⟨target, foundThere, isTarget⟩ :=
    Option.map_eq_some_iff.mp isLeft
  refine ⟨least, outcome, after, next, target, nextAtRest, foundThere,
    relinquished.report isTarget, fun rounds enough => ?_⟩
  rw [relinquishAllPriorities, allPriorities_eq]
  exact runs rounds enough

end ClientSystem

end BacnetStack
