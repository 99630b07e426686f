import BacnetStack.ServerLossyLink

namespace BacnetStack

/-!
# Commands written over a lossy link

A session commands an object of a server with one write after another.  The
link may lose requests and replies.  Whatever it loses, an acknowledged write
is in force at its priority, a refused one changed nothing, and only a write
that timed out leaves open whether it reached the server.
-/

/-- A write of the Present_Value of an object. -/
structure CommandWrite where
  value : BacnetValue
  options : BacnetWritePropertyOptions
  deriving DecidableEq

namespace CommandWrite

/-- The rank a write addresses; without a priority it is the last one. -/
def rank? (write : CommandWrite) : Option (Fin kSlotCount) :=
  BacnetCommandPriority.slotIndex?
    (if write.options.hasPriority then write.options.priority else 16)

/-- What an accepted write makes of the commands of its object. -/
def commands?
    (write : CommandWrite)
    (commands : Commands) : Option Commands :=
  if write.options.arrayIndex ≠ kBacnetNoArrayIndex then
    none
  else
    write.rank?.bind fun rank =>
      (givenCommand commands write.value).map fun entry =>
        commands.assign rank entry

theorem commands?_eq_some_iff
    {write : CommandWrite}
    {commands left : Commands} :
    write.commands? commands = some left ↔
      write.options.arrayIndex = kBacnetNoArrayIndex ∧
        ∃ rank entry,
          write.rank? = some rank ∧
            givenCommand commands write.value = some entry ∧
            left = commands.assign rank entry := by
  unfold commands?
  by_cases whole : write.options.arrayIndex = kBacnetNoArrayIndex
  · rw [if_neg (not_not.mpr whole), Option.bind_eq_some_iff]
    constructor
    · rintro ⟨rank, isRank, given⟩
      obtain ⟨entry, isEntry, rfl⟩ := Option.map_eq_some_iff.mp given
      exact ⟨whole, rank, entry, isRank, isEntry, rfl⟩
    · rintro ⟨_, rank, entry, isRank, isEntry, rfl⟩
      exact ⟨rank, isRank, by rw [isEntry, Option.map_some]⟩
  · rw [if_pos whole]
    constructor
    · intro refused
      cases refused
    · rintro ⟨same, _⟩
      exact absurd same whole

end CommandWrite

/-- The request a server receives for a write. -/
structure CommandWrite.Requests
    (write : CommandWrite)
    (object : BacnetObjectId)
    (request : BacnetWritePropertyRequestHeader) : Prop where
  object : request.request.object = object
  property : request.request.property = .presentValue
  arrayIndex : request.request.arrayIndex = write.options.arrayIndex
  value : SameValue request.value write.value
  hasPriority : request.hasPriority = write.options.hasPriority
  priority :
    write.options.hasPriority = true →
      request.priority = write.options.priority

/-- A value that says the same gives the same command. -/
theorem givenCommand_congr
    {left right : BacnetValue}
    (same : SameValue left right)
    (commands : Commands) :
    givenCommand commands left = givenCommand commands right := by
  obtain ⟨sameType, sameContent⟩ := same
  unfold BacnetValue.content at sameContent
  unfold givenCommand
  rw [← sameType] at sameContent ⊢
  cases type : left.type with
  | real =>
      simp only [type, Option.some.injEq, ValueContent.real.injEq]
        at sameContent
      rw [sameContent]
      cases commands.default <;> rfl
  | enumerated =>
      simp only [type, Option.some.injEq, ValueContent.enumerated.injEq]
        at sameContent
      rw [sameContent]
      cases commands.default <;> rfl
  | _ => rfl

namespace ServerObjects

variable {objects : ServerObjects} {object : BacnetObjectId}

/-- An accepted write of a Present_Value assigns its rank. -/
theorem commandTable_of_write
    {target : WriteTarget}
    (found : objects.findWriteTarget object = some target)
    {write : CommandWrite}
    {request : BacnetWritePropertyRequestHeader}
    (requests : write.Requests object request)
    {effect : WriteEffect}
    (performed : objects.writeProperty request = .ok effect) :
    ∃ left,
      write.commands? target.commands = some left ∧
        effect.objects.commandTable object = some left := by
  have gives := givenCommand_congr requests.value target.commands
  have sameRank :
      BacnetCommandPriority.slotIndex?
          (if request.hasPriority then request.priority else 16) =
        write.rank? := by
    unfold CommandWrite.rank?
    rw [requests.hasPriority]
    cases prioritised : write.options.hasPriority with
    | false => rfl
    | true => rw [requests.priority prioritised]
  unfold writeProperty at performed
  rw [requests.object, found] at performed
  dsimp only at performed
  by_cases indexed : request.request.arrayIndex ≠ kBacnetNoArrayIndex
  · rw [if_pos indexed] at performed
    cases performed
  rw [if_neg indexed, if_pos requests.property] at performed
  by_cases outOfRange :
      (if request.hasPriority then request.priority else 16) = 0 ∨
        kSlotCount <
          (if request.hasPriority then request.priority else 16).toNat
  · rw [if_pos outOfRange] at performed
    cases performed
  rw [if_neg outOfRange, validPresentValue_eq] at performed
  cases isEntry : givenCommand target.commands request.value with
  | none =>
      rw [isEntry] at performed
      cases performed
  | some entry =>
      rw [isEntry] at performed
      obtain ⟨rank, addressed⟩ :
          ∃ rank,
            BacnetCommandPriority.slotIndex?
              (if request.hasPriority then request.priority else 16) =
                some rank := by
        rw [← Option.ne_none_iff_exists', Ne, slotIndex?_eq_none_iff]
        exact outOfRange
      have idle : target.callbackInProgress = false := by
        by_contra busy
        rw [Bool.not_eq_false] at busy
        rw [applyPresentValue_of_busy busy] at performed
        cases performed
      obtain ⟨result, isResult, becomes⟩ :=
        applyPresentValue_becomes found idle isEntry addressed
      rw [isResult] at performed
      obtain rfl := Except.ok.inj performed
      refine ⟨target.commands.assign rank entry, ?_, ?_⟩
      · exact CommandWrite.commands?_eq_some_iff.mpr
          ⟨(requests.arrayIndex).symm.trans (not_not.mp indexed), rank,
            entry, sameRank.symm.trans addressed, gives.symm.trans isEntry,
            rfl⟩
      · have held : objects.commandTable object = some target.commands := by
          rw [commandTable, found]
          rfl
        rw [becomes.table, CommandTable.update, Function.update_self, held]
        rfl

end ServerObjects

namespace BacnetServer

variable {server : BacnetServer} {object : BacnetObjectId}

/-- The answer to a write, and what it leaves behind. -/
theorem poll_command
    {input : PollInput}
    {request : BacnetWritePropertyRequestHeader}
    (received : server.ReceivesWrite input request)
    {write : CommandWrite}
    (requests : write.Requests object request)
    {commands : Commands}
    (held : server.objects.commandTable object = some commands) :
    (∃ left,
      write.commands? commands = some left ∧
        (server.poll input).server.objects.commandTable object = some left ∧
        (server.poll input).datagram.map Datagram.packet =
          some (simpleAckPacket request.invokeId kServiceWriteProperty)) ∨
    ((server.poll input).server.objects.commandTable object =
        some commands ∧
      ∃ error : BacnetError,
        (server.poll input).datagram.map Datagram.packet =
          some (serviceErrorPacket request.invokeId kServiceWriteProperty
            error.1 error.2)) := by
  obtain ⟨target, found, rfl⟩ := Option.map_eq_some_iff.mp held
  rw [poll_write received]
  rcases @handleWriteProperty_cases server input request
    with ⟨effect, performed, next, acknowledged⟩ |
      ⟨error, -, same, answered⟩
  · obtain ⟨left, accepted, table⟩ :=
      ServerObjects.commandTable_of_write found requests performed
    refine Or.inl ⟨left, accepted, ?_, by rw [acknowledged]; rfl⟩
    rw [next]
    exact table
  · exact Or.inr ⟨by rw [same, held], error, by rw [answered]; rfl⟩

/-- A built write is received as it was meant. -/
theorem requests_of_build
    {write : CommandWrite}
    (positive :
      write.options.hasPriority = true → write.options.priority ≠ 0)
    {invokeId : UInt8}
    {packet : List UInt8}
    (built :
      buildWritePropertyRequest 544 object .presentValue write.value
        write.options invokeId = some packet) :
    ∃ request,
      parseWritePropertyRequest packet = .parsed request ∧
        request.invokeId = invokeId ∧
        write.Requests object request := by
  have single :
      ¬ReadsAsList .presentValue write.options.arrayIndex
        write.value.type := by
    rintro ⟨_, same | ⟨same, _⟩⟩
    · revert same
      decide
    · revert same
      decide
  obtain ⟨received, parsed, sameValue⟩ :=
    writeReceived_of_single positive built single
  refine ⟨_, parsed, rfl, rfl, rfl, rfl, sameValue, rfl, ?_⟩
  intro prioritised
  exact if_pos prioritised

end BacnetServer

/--
What a write reports, whether it reached the server, and what it leaves
there.
-/
inductive CommandWrite.Ends
    (write : CommandWrite)
    (commands : Commands) :
    BacnetDeviceSessionWriteStatus → Bool → Commands → Prop where
  | reached
      {status : BacnetDeviceSessionWriteStatus}
      {left : Commands}
      (accepted : write.commands? commands = some left)
      (reported : status = .ack ∨ status = .timeout) :
      write.Ends commands status true left
  | unchanged
      {status : BacnetDeviceSessionWriteStatus}
      (failed : status ≠ .ack) :
      write.Ends commands status false commands

/-- What an exchange of a write brings, and what it leaves behind. -/
theorem CommandWrite.ends_of_exchanged
    {object : BacnetObjectId}
    {server next : BacnetServer}
    {commands : Commands}
    (held : server.objects.commandTable object = some commands)
    {write : CommandWrite}
    (positive :
      write.options.hasPriority = true → write.options.priority ≠ 0)
    {invokeId : UInt8}
    {packet : List UInt8}
    (built :
      buildWritePropertyRequest 544 object .presentValue write.value
        write.options invokeId = some packet)
    {reply : Option (List UInt8)}
    (exchanged : server.Exchanged object packet reply next)
    (peer : BacnetIpEndpoint) :
    ∃ status reached left,
      (reply.map fun packet => (⟨peer, packet⟩ : ReceivedDatagram)).elim
          (some .timeout) (BacnetClient.writeResponse invokeId) =
        some status ∧
      next.objects.commandTable object = some left ∧
      write.Ends commands status reached left := by
  obtain ⟨request, parsed, isInvokeId, requests⟩ :=
    BacnetServer.requests_of_build positive built
  have fits : packet.length ≤ kMaxDatagramSize :=
    length_writeRequest_le built
  have notAck :
      BacnetDeviceSessionWriteStatus.timeout ≠ .ack := by decide
  cases exchanged with
  | requestLost same =>
      exact ⟨.timeout, false, commands, rfl, same.trans held,
        .unchanged notAck⟩
  | replyLost ready same isPacket after =>
      subst isPacket
      have received := BacnetServer.ReceivesWrite.mk ready fits parsed
      rcases BacnetServer.poll_command received requests (same.trans held)
        with ⟨left, accepted, assigned, -⟩ | ⟨kept, -⟩
      · exact ⟨.timeout, true, left, rfl, after.trans assigned,
          .reached accepted (Or.inr rfl)⟩
      · exact ⟨.timeout, false, commands, rfl, after.trans kept,
          .unchanged notAck⟩
  | replied ready same isPacket replies after =>
      subst isPacket
      have received := BacnetServer.ReceivesWrite.mk ready fits parsed
      rcases BacnetServer.poll_command received requests (same.trans held)
        with ⟨left, accepted, assigned, isAck⟩ | ⟨kept, error, isError⟩
      · obtain rfl := Option.some.inj (replies.symm.trans isAck)
        rw [isInvokeId]
        exact ⟨.ack, true, left, writeResponse_simpleAckPacket peer invokeId,
          after.trans assigned, .reached accepted (Or.inl rfl)⟩
      · obtain rfl := Option.some.inj (replies.symm.trans isError)
        rw [isInvokeId]
        obtain ⟨status, isStatus, failed⟩ :=
          writeResponse_serviceErrorPacket peer invokeId error.1 error.2
        exact ⟨status, false, commands, isStatus, after.trans kept,
          .unchanged failed⟩

namespace ClientSystem

variable {τ : Type} {runtime : ClientRuntime τ} {peer : BacnetIpEndpoint}
  {timeoutMs : UInt32} {object : BacnetObjectId}
  {atRest : BacnetServer → τ → Prop}

/-- A priority of 0 is refused before anything is sent. -/
theorem sendWritePropertyWithOptions_zero
    (client : BacnetClient τ)
    (destination : BacnetIpEndpoint)
    (property : BacnetPropertyId)
    (value : BacnetValue)
    {options : BacnetWritePropertyOptions}
    (prioritised : options.hasPriority = true)
    (zero : options.priority = 0)
    (invokeId : UInt8) :
    ∃ status,
      client.sendWritePropertyWithOptions runtime destination object
          property value options invokeId = (status, client) ∧
        status ≠ .none := by
  unfold BacnetClient.sendWritePropertyWithOptions
  split
  · exact ⟨.disabled, rfl, by decide⟩
  · split
    · exact ⟨.sendFailed, rfl, by decide⟩
    · rw [if_pos (Or.inr (Or.inr ⟨prioritised, Or.inl zero⟩))]
      exact ⟨.invalidArgument, rfl, by decide⟩

/-- A write ends, and what it reports fits what it left on the server. -/
theorem writePropertyWithOptions_of_link
    (link : LossyLink runtime peer timeoutMs object atRest)
    {system : ClientSystem τ}
    {id : SessionId}
    {commands : Commands}
    (commanding : system.Commanding id peer object atRest commands)
    (write : CommandWrite) :
    ∃ least status reached left after,
      write.Ends commands status reached left ∧
        after.Commanding id peer object atRest left ∧
        ∀ rounds, least ≤ rounds →
          system.writePropertyWithOptions runtime id object .presentValue
              write.value write.options timeoutMs rounds =
            (some status, after) := by
  obtain ⟨endpoint, server, isAtRest, held⟩ := commanding
  unfold writePropertyWithOptions
  by_cases busy : (system.sessions id).isBusy = true
  · exact ⟨0, .busy, false, commands, system, .unchanged (by decide),
      ⟨endpoint, server, isAtRest, held⟩, fun _ _ => if_pos busy⟩
  by_cases disabled :
      (!BacnetClient.writeEnabled runtime write.options.hasPriority) = true
  · refine ⟨0, .disabled, false, commands, system, .unchanged (by decide),
      ⟨endpoint, server, isAtRest, held⟩, fun _ _ => ?_⟩
    rw [if_neg busy]
    exact if_pos disabled
  have enabled : runtime.writePropertyEnabled = true := by
    simp only [BacnetClient.writeEnabled, Bool.not_eq_true',
      Bool.not_eq_false, Bool.and_eq_true] at disabled
    exact disabled.1
  simp only [if_neg busy, if_neg disabled]
  rcases allocates : system.allocateInvokeId id with ⟨invokeId, allocated⟩
  have isAllocated : allocated = (system.allocateInvokeId id).2 := by
    rw [allocates]
  have session :
      allocated.sessions id = (system.sessions id).allocateInvokeId.2 := by
    rw [isAllocated]
    exact sessions_setSession_self ..
  have allocatedEndpoint : (allocated.sessions id).endpoint = peer := by
    rw [session]
    exact endpoint
  have client : allocated.client = system.client := by
    rw [isAllocated]
    rfl
  have notSentEnds
      {status : BacnetWritePropertyPollStatus}
      (failed : status ≠ .none) :
      ∃ reported,
        writeNotSentWithOptions status = some reported ∧
          reported ≠ .ack :=
    writeNotSentWithOptions_of_failed failed
  dsimp only [onClient]
  rw [allocatedEndpoint, client]
  by_cases zero :
      write.options.hasPriority = true ∧ write.options.priority = 0
  · obtain ⟨status, unsent, failed⟩ :=
      @sendWritePropertyWithOptions_zero τ runtime object system.client peer
        .presentValue write.value _ zero.1 zero.2 invokeId
    obtain ⟨reported, notSent, isFailed⟩ := notSentEnds failed
    refine ⟨0, reported, false, commands,
      { allocated with client := system.client }, .unchanged isFailed,
      ⟨allocatedEndpoint, server, isAtRest, held⟩, fun _ _ => ?_⟩
    rw [unsent]
    simp only [notSent]
  have positive :
      write.options.hasPriority = true → write.options.priority ≠ 0 :=
    fun prioritised isZero => zero ⟨prioritised, isZero⟩
  rcases BacnetClient.sendWritePropertyWithOptions_cases system.client peer
      object .presentValue write.value write.options invokeId
    with ⟨status, unsent, failed⟩ |
      ⟨packet, after, built, running, isTransport, sent⟩
  · obtain ⟨reported, notSent, isFailed⟩ := notSentEnds failed
    refine ⟨0, reported, false, commands,
      { allocated with client := system.client }, .unchanged isFailed,
      ⟨allocatedEndpoint, server, isAtRest, held⟩, fun _ _ => ?_⟩
    rw [unsent]
    simp only [notSent]
  · rw [sent]
    rcases link.exchange isAtRest
      with ⟨refused, next, sends, same, nextAtRest⟩ |
        ⟨sentTransport, reply, next, least, sends, exchanged, ends⟩
    · rw [sends] at isTransport ⊢
      exact ⟨0, .sendFailed, false, commands,
        { allocated with client := after }, .unchanged (by decide),
        ⟨allocatedEndpoint, next, isTransport ▸ nextAtRest,
          same.trans held⟩, fun _ _ => rfl⟩
    · rw [sends] at isTransport ⊢
      obtain ⟨status, reached, left, reports, leftHeld, writeEnds⟩ :=
        CommandWrite.ends_of_exchanged held positive built exchanged peer
      rw [← show after.transport = sentTransport from isTransport] at ends
      obtain ⟨final, finalAtRest, finishes⟩ :=
        @awaitWrite_of_ends τ runtime timeoutMs enabled
          { allocated with client := after } running _ _ least ends invokeId
          status reports
      exact ⟨least, status, reached, left, { allocated with client := final },
        writeEnds, ⟨allocatedEndpoint, next, finalAtRest, leftHeld⟩,
        finishes⟩

/-- An application writes one command after another and keeps the reports. -/
def writeCommands
    (runtime : ClientRuntime τ)
    (id : SessionId)
    (object : BacnetObjectId)
    (timeoutMs : UInt32)
    (rounds : Nat) :
    List CommandWrite → ClientSystem τ →
      Option (List BacnetDeviceSessionWriteStatus) × ClientSystem τ
  | [], system => (some [], system)
  | write :: rest, system =>
      match
        system.writePropertyWithOptions runtime id object .presentValue
          write.value write.options timeoutMs rounds with
      | (none, system) => (none, system)
      | (some status, system) =>
          match
            writeCommands runtime id object timeoutMs rounds rest system with
          | (none, system) => (none, system)
          | (some statuses, system) => (some (status :: statuses), system)

end ClientSystem

/-- A write of a sequence, what it reported and whether it was carried out. -/
structure WriteOutcome where
  write : CommandWrite
  status : BacnetDeviceSessionWriteStatus
  reached : Bool
  deriving DecidableEq

/-- The commands go on with the writes of a sequence, one after another. -/
inductive CommandsWritten :
    Commands → List WriteOutcome → Commands → Prop where
  | nil (commands : Commands) : CommandsWritten commands [] commands
  | cons
      {commands next left : Commands}
      {outcome : WriteOutcome}
      {rest : List WriteOutcome}
      (first :
        outcome.write.Ends commands outcome.status outcome.reached next)
      (others : CommandsWritten next rest left) :
      CommandsWritten commands (outcome :: rest) left

namespace CommandsWritten

variable {commands next left : Commands}

/-- A write keeps the kind of the commands. -/
theorem givenCommand_eq
    {write : CommandWrite}
    {status : BacnetDeviceSessionWriteStatus}
    {reached : Bool}
    (ends : write.Ends commands status reached next)
    (value : BacnetValue) :
    givenCommand next value = givenCommand commands value := by
  cases ends with
  | reached accepted =>
      obtain ⟨_, rank, entry, _, _, rfl⟩ :=
        CommandWrite.commands?_eq_some_iff.mp accepted
      rfl
  | unchanged => rfl

/-- A rank no later write may have reached keeps its command. -/
theorem command_eq
    {outcomes : List WriteOutcome}
    (written : CommandsWritten commands outcomes left)
    {rank : Fin kSlotCount}
    (elsewhere :
      ∀ outcome ∈ outcomes,
        outcome.status = .ack ∨ outcome.status = .timeout →
          outcome.write.rank? ≠ some rank) :
    left.command rank = commands.command rank := by
  induction written with
  | nil => rfl
  | @cons commands next left outcome rest first others inductionHypothesis =>
      have later := inductionHypothesis fun other isMember =>
        elsewhere other (List.mem_cons_of_mem _ isMember)
      have mayReach := elsewhere outcome List.mem_cons_self
      rw [later]
      generalize outcome.reached = reached at first
      generalize outcome.status = status at first mayReach
      cases first with
      | reached accepted reported =>
          obtain ⟨_, changed, entry, addressed, _, rfl⟩ :=
            CommandWrite.commands?_eq_some_iff.mp accepted
          apply Function.update_of_ne
          rintro rfl
          exact mayReach reported addressed
      | unchanged => rfl

/-- The commands in front of a write of the sequence give the same values. -/
theorem split
    {earlier later : List WriteOutcome}
    {outcome : WriteOutcome}
    (written :
      CommandsWritten commands (earlier ++ outcome :: later) left) :
    ∃ before after,
      (∀ value, givenCommand before value = givenCommand commands value) ∧
        outcome.write.Ends before outcome.status outcome.reached after ∧
        CommandsWritten after later left := by
  induction earlier generalizing commands with
  | nil =>
      cases written with
      | cons first others => exact ⟨commands, _, fun _ => rfl, first, others⟩
  | cons head rest inductionHypothesis =>
      cases written with
      | cons first others =>
          obtain ⟨before, after, same, ends, behind⟩ :=
            inductionHypothesis others
          refine ⟨before, after, fun value => ?_, ends, behind⟩
          rw [same]
          exact givenCommand_eq first value

/--
An acknowledged write stays in force until a later write of the same priority
is acknowledged or times out.
-/
theorem command_of_acknowledged
    {earlier later : List WriteOutcome}
    {outcome : WriteOutcome}
    (written :
      CommandsWritten commands (earlier ++ outcome :: later) left)
    (acknowledged : outcome.status = .ack)
    {rank : Fin kSlotCount}
    (addressed : outcome.write.rank? = some rank)
    (elsewhere :
      ∀ other ∈ later, other.status = .ack ∨ other.status = .timeout →
        other.write.rank? ≠ some rank) :
    ∃ entry,
      givenCommand commands outcome.write.value = some entry ∧
        left.command rank = entry := by
  obtain ⟨before, after, same, ends, behind⟩ := written.split
  rw [behind.command_eq elsewhere]
  generalize outcome.reached = reached at ends
  generalize outcome.status = status at ends acknowledged
  cases ends with
  | reached accepted =>
      obtain ⟨_, changed, entry, isChanged, isEntry, rfl⟩ :=
        CommandWrite.commands?_eq_some_iff.mp accepted
      obtain rfl := Option.some.inj (isChanged.symm.trans addressed)
      refine ⟨entry, ?_, Function.update_self ..⟩
      rw [← same]
      exact isEntry
  | unchanged failed => exact absurd acknowledged failed

end CommandsWritten

namespace ClientSystem

variable {τ : Type} {runtime : ClientRuntime τ} {peer : BacnetIpEndpoint}
  {timeoutMs : UInt32} {object : BacnetObjectId}
  {atRest : BacnetServer → τ → Prop}

/-- The reports of a sequence of writes fit what became of the commands. -/
theorem written_writeCommands
    (link : LossyLink runtime peer timeoutMs object atRest)
    {id : SessionId}
    (writes : List CommandWrite)
    {system : ClientSystem τ}
    {commands : Commands}
    (commanding : system.Commanding id peer object atRest commands) :
    ∃ least outcomes left after,
      outcomes.map WriteOutcome.write = writes ∧
        CommandsWritten commands outcomes left ∧
        after.Commanding id peer object atRest left ∧
        ∀ rounds, least ≤ rounds →
          writeCommands runtime id object timeoutMs rounds writes system =
            (some (outcomes.map WriteOutcome.status), after) := by
  induction writes generalizing system commands with
  | nil =>
      exact ⟨0, [], commands, system, rfl, .nil commands, commanding,
        fun _ _ => rfl⟩
  | cons write rest inductionHypothesis =>
      obtain ⟨least, status, reached, next, middle, ends, stillCommanding,
        finishes⟩ := writePropertyWithOptions_of_link link commanding write
      obtain ⟨leastOthers, outcomes, left, after, sameWrites, written,
        finallyCommanding, finishesOthers⟩ :=
        inductionHypothesis stillCommanding
      refine ⟨max least leastOthers, ⟨write, status, reached⟩ :: outcomes,
        left, after, ?_, .cons ends written, finallyCommanding, ?_⟩
      · rw [List.map_cons, sameWrites]
      · intro rounds enough
        rw [writeCommands, finishes rounds (le_of_max_le_left enough)]
        dsimp only
        rw [finishesOthers rounds (le_of_max_le_right enough)]
        rfl

/-- What an application learns from a sequence of writes. -/
structure WritesReported
    (commands : Commands)
    (outcomes : List WriteOutcome)
    (left : Commands) : Prop where
  /-- The commands went on with the writes that reached the server. -/
  written : CommandsWritten commands outcomes left
  /-- An acknowledged write is in force until another one may be. -/
  holds :
    ∀ earlier outcome later rank,
      outcomes = earlier ++ outcome :: later →
        outcome.status = .ack →
        outcome.write.rank? = some rank →
        (∀ other ∈ later, other.status = .ack ∨ other.status = .timeout →
          other.write.rank? ≠ some rank) →
        ∃ entry,
          givenCommand commands outcome.write.value = some entry ∧
            left.command rank = entry

/--
Over every lossy link every sequence of writes ends, an acknowledged write is
in force on the server until a later one of its priority may have replaced
it, and a write that neither was acknowledged nor timed out had no effect.
-/
theorem writeCommands_reports
    (link : LossyLink runtime peer timeoutMs object atRest)
    {system : ClientSystem τ}
    {id : SessionId}
    {commands : Commands}
    (commanding : system.Commanding id peer object atRest commands)
    (writes : List CommandWrite) :
    ∃ least outcomes left after,
      outcomes.map WriteOutcome.write = writes ∧
        WritesReported commands outcomes left ∧
        after.Commanding id peer object atRest left ∧
        ∀ rounds, least ≤ rounds →
          writeCommands runtime id object timeoutMs rounds writes system =
            (some (outcomes.map WriteOutcome.status), after) := by
  obtain ⟨least, outcomes, left, after, sameWrites, written, still,
    finishes⟩ := written_writeCommands link writes commanding
  refine ⟨least, outcomes, left, after, sameWrites, ⟨written, ?_⟩, still,
    finishes⟩
  intro earlier outcome later rank shape acknowledged addressed elsewhere
  rw [shape] at written
  exact written.command_of_acknowledged acknowledged addressed elsewhere

/-- Two commands of one output over a link that loses the second reply. -/
theorem writeCommands_reports_analogOutput :
    ∃ commands least outcomes left after,
      outcomes.map WriteOutcome.write =
          [⟨realValue .one, { hasPriority := true, priority := 8 }⟩,
            ⟨{ type := .null }, {}⟩] ∧
        WritesReported commands outcomes left ∧
        after.Commanding 0 scriptedPeer ⟨BacnetObjectType.analogOutput, 1⟩
          FatefulLink.AtRest left ∧
        ∀ rounds, least ≤ rounds →
          writeCommands (fatefulRuntime scriptedPeer) 0
              ⟨BacnetObjectType.analogOutput, 1⟩ 1000 rounds
              [⟨realValue .one, { hasPriority := true, priority := 8 }⟩,
                ⟨{ type := .null }, {}⟩]
              lossySystem =
            (some (outcomes.map WriteOutcome.status), after) := by
  obtain ⟨commands, held⟩ :
      ∃ commands,
        BacnetServer.commandedServer.objects.commandTable
          ⟨BacnetObjectType.analogOutput, 1⟩ = some commands :=
    ⟨_, rfl⟩
  have commanding :
      lossySystem.Commanding 0 scriptedPeer
        ⟨BacnetObjectType.analogOutput, 1⟩ FatefulLink.AtRest commands :=
    ⟨rfl, BacnetServer.commandedServer, ⟨rfl, ⟨rfl, rfl⟩, rfl⟩, held⟩
  exact ⟨commands,
    writeCommands_reports (fatefulRuntime_lossy scriptedPeer 1000 _)
      commanding _⟩

end ClientSystem

end BacnetStack
