import BacnetStack.ProtocolDispatch
import BacnetStack.ProtocolReaderBounds

namespace BacnetStack

/-!
# How far the decoders read

Whatever the octets are, the public decoders look at no octet behind the
packet, with one exception: the confirmed form of a COV notification is
checked for one octet less than is read.
-/

open Reader

section Requests

variable {needed : Nat}

theorem reads_whoIsReader : Reads needed whoIsReader 0 := by
  refine (reads_readBvlcHeader (by decide) true).bind fun _ => ?_
  refine reads_readNpduHeader.bind fun _ => ?_
  refine reads_require_remaining_bind
    (fun _ _ => Nat.zero_le _) fun _ => ?_
  refine (reads_expect _).bind fun _ => ?_
  refine (reads_expect _).bind fun _ => ?_
  refine reads_hasMore_bind ?_ (reads_pure _)
  refine (reads_readContextValue 0).bind fun _ => ?_
  refine (reads_readContextValue 1).bind fun _ => ?_
  exact reads_atEnd.bind fun _ =>
    (reads_require _).bind fun _ => reads_pure _

theorem reads_confirmedRequestHeaderReader :
    Reads needed confirmedRequestHeaderReader 0 := by
  refine (reads_readBvlcHeader (by decide) false).bind fun _ => ?_
  refine reads_readNpduHeader.bind fun _ => ?_
  refine reads_hasMore_bind ?_ (reads_require_bind nofun)
  refine reads_require_bind fun _ => ?_
  refine (show Reads 1 peek 1 from reads_peek).bind fun first => ?_
  split
  · exact (reads_pure _).weaken (Nat.zero_le _) le_rfl
  · refine reads_require_remaining_bind
      (fun _ passes => of_decide_eq_true passes) fun _ => ?_
    refine (reads_skip 2).bind fun _ => ?_
    refine reads_next.bind fun _ => ?_
    refine reads_next.bind fun _ => ?_
    exact fun _ _ => Nat.zero_le _

theorem reads_readObjectAndProperty :
    Reads needed readObjectAndProperty 0 :=
  (reads_readContextValue 0).bind fun _ =>
    (reads_readContextValue 1).bind fun _ =>
      (reads_require _).bind fun _ => reads_pure _

theorem reads_readPropertyRequestBody
    (confirmed : BacnetConfirmedRequestHeader) :
    Reads needed (readPropertyRequestBody confirmed) 0 := by
  refine reads_readObjectAndProperty.bind fun reference => ?_
  have finish (arrayIndex : UInt32) :
      Reads 0
        (atEnd >>= fun _ =>
          (pure {
            invokeId := confirmed.invokeId
            request := {
              object := reference.1
              property := reference.2
              arrayIndex := arrayIndex
            }
          } : Reader BacnetReadPropertyRequestHeader)) 0 :=
    reads_atEnd.bind fun _ => reads_pure _
  refine reads_hasMore_bind ?_ (finish kBacnetNoArrayIndex)
  exact (reads_readContextValue 2).bind finish

theorem reads_writePropertyRequestBody
    (confirmed : BacnetConfirmedRequestHeader) :
    Reads needed (writePropertyRequestBody confirmed) 0 := by
  refine reads_readObjectAndProperty.bind fun reference => ?_
  refine (reads_readOptionalContextValue 2 _).bind fun arrayIndex => ?_
  refine (reads_expect 0x3E).bind fun _ => ?_
  refine (reads_parseReadPropertyApplicationValue _ _).bind fun value => ?_
  refine (reads_expect 0x3F).bind fun _ => ?_
  refine reads_hasMore_bind ?_ ?_
  all_goals
    refine reads_optional_bind (reads_readContextValue 4)
      (Nat.zero_le _) fun priority => ?_
    exact (reads_require _).bind fun _ =>
      reads_atEnd.bind fun _ => reads_pure _

theorem reads_readSubscribedProperty :
    Reads needed readSubscribedProperty 0 :=
  (reads_expect 0x2E).bind fun _ =>
    (reads_readContextValue 0).bind fun _ =>
      (reads_readOptionalContextValue 1 _).bind fun _ =>
        (reads_expect 0x2F).bind fun _ => reads_pure _

theorem reads_subscribeCovRequestBody
    (confirmed : BacnetConfirmedRequestHeader) :
    Reads needed (subscribeCovRequestBody confirmed) 0 := by
  refine (reads_readContextValue 0).bind fun processId => ?_
  refine (reads_readContextValue 1).bind fun objectIdentifier => ?_
  refine (reads_require _).bind fun _ => ?_
  refine reads_optional_bind reads_readSubscribedProperty le_rfl
    fun reference => ?_
  refine (reads_readOptionalContextValue _ _).bind fun issueConfirmed => ?_
  refine (reads_require _).bind fun _ => ?_
  refine (reads_readOptionalContextValue _ _).bind fun lifetime => ?_
  refine reads_optional_bind reads_atContextTag le_rfl
    fun hasCovIncrement => ?_
  refine reads_optional_bind (reads_readContextReal 5) le_rfl
    fun covIncrement => ?_
  exact (reads_require _).bind fun _ =>
    reads_atEnd.bind fun _ => reads_pure _

theorem reads_confirmedCovNotificationResponseReader
    (expectedInvokeId : UInt8) :
    Reads needed
      (confirmedCovNotificationResponseReader expectedInvokeId) 0 := by
  refine (reads_readBvlcHeader (by decide) false).bind fun _ => ?_
  refine reads_readNpduHeader.bind fun _ => ?_
  refine reads_require_remaining_bind
    (fun _ passes => of_decide_eq_true passes) fun _ => ?_
  refine reads_next.bind fun apdu => ?_
  refine reads_next.bind fun _ => ?_
  refine (reads_require _).bind fun _ => ?_
  have answers (answersNotification : Bool) :
      Reads 0
        (if apdu &&& 0xF0 = kApduSimpleAck ∧ answersNotification then
          return .ack
        else if apdu &&& 0xF0 = kApduError ∧ answersNotification then
          return .error
        else if apdu &&& 0xF0 = kApduReject then
          return .reject
        else if apdu &&& 0xF0 = kApduAbort then
          return .abort
        else
          return .none : Reader BacnetSubscribeCovResponseKind) 0 := by
    repeat' split
    all_goals exact reads_pure _
  refine reads_hasMore_bind ?_ (answers false)
  refine (show Reads 1 peek 1 from reads_peek).bind fun third => ?_
  exact (answers _).weaken (Nat.zero_le _) le_rfl

end Requests

section Responses

variable {needed : Nat}

theorem reads_confirmedResponseReader
    (ackType service expectedInvokeId : UInt8) :
    Reads needed
      (confirmedResponseReader ackType service expectedInvokeId) 0 := by
  refine (reads_readBvlcHeader (by decide) true).bind fun _ => ?_
  refine reads_readNpduHeader.bind fun _ => ?_
  refine reads_checkedNext.bind fun apdu => ?_
  dsimp only
  split
  · refine reads_require_remaining_bind
      (fun _ passes => of_decide_eq_true passes) fun _ => ?_
    refine reads_next.bind fun _ => ?_
    refine (reads_require _).bind fun _ => ?_
    refine reads_next.bind fun _ => ?_
    exact (reads_require _).bind fun _ => reads_pure _
  · refine (reads_require _).bind fun _ => ?_
    refine reads_checkedNext.bind fun _ => ?_
    exact (reads_require _).bind fun _ => reads_pure _

/-- The next octet where there is one. -/
def lookAhead : Reader (Option UInt8) := do
  if ← hasMore then
    return some (← peek)
  else
    return none

/-- Looking ahead sees the first unread octet and reads nothing else. -/
theorem run_lookAhead
    (unread : List UInt8) :
    lookAhead.run unread = .ok (unread.head?, unread) := by
  cases unread <;> rfl

/-- Looking ahead needs nothing. -/
theorem reads_lookAhead : Reads needed lookAhead 0 :=
  fun unread _ => by
    rw [run_lookAhead]
    exact Nat.zero_le _

theorem reads_subscribeCovResponseReader
    (expectedInvokeId expectedServiceChoice : UInt8) :
    Reads needed
      (subscribeCovResponseReader expectedInvokeId
        expectedServiceChoice) 0 := by
  refine (reads_readBvlcHeader (by decide) false).bind fun _ => ?_
  refine reads_readNpduHeader.bind fun _ => ?_
  refine reads_require_remaining_bind
    (fun _ passes => of_decide_eq_true passes) fun _ => ?_
  refine reads_next.bind fun apdu => ?_
  refine reads_next.bind fun _ => ?_
  refine (reads_require _).bind fun _ => ?_
  have wholePacket : Reads 0 (get : Reader (List UInt8)) 0 :=
    fun _ enough => enough
  refine wholePacket.bind fun unread => ?_
  dsimp only
  repeat' split
  all_goals exact reads_pure _

theorem reads_simpleAckReader
    (expectedInvokeId expectedServiceChoice : UInt8) :
    Reads needed
      (simpleAckReader expectedInvokeId expectedServiceChoice) 0 := by
  refine (reads_readBvlcHeader (by decide) false).bind fun _ => ?_
  refine reads_readNpduHeader.bind fun _ => ?_
  refine reads_require_remaining_bind
    (fun _ passes => (beq_iff_eq.mp passes).ge) fun _ => ?_
  refine reads_next.bind fun _ => ?_
  refine (reads_require _).bind fun _ => ?_
  refine reads_next.bind fun _ => ?_
  refine (reads_require _).bind fun _ => ?_
  refine reads_next.bind fun _ => ?_
  exact reads_require _

theorem reads_readPropertyAckHeader
    (expectedInvokeId : UInt8) :
    Reads needed (readPropertyAckHeader expectedInvokeId) 0 := by
  refine (reads_readBvlcHeader (by decide) false).bind fun _ => ?_
  refine reads_readNpduHeader.bind fun _ => ?_
  refine reads_require_remaining_bind
    (fun _ passes => of_decide_eq_true passes) fun _ => ?_
  refine reads_next.bind fun _ => ?_
  refine (reads_require _).bind fun _ => ?_
  refine reads_next.bind fun _ => ?_
  refine (reads_require _).bind fun _ => ?_
  refine reads_next.bind fun _ => ?_
  exact reads_require _

theorem reads_readAcknowledgedProperty
    (expectedRequest : BacnetPropertyRequest) :
    Reads needed (readAcknowledgedProperty expectedRequest) 0 :=
  (reads_readContextValue 0).bind fun _ =>
    (reads_require _).bind fun _ =>
      (reads_readContextValue 1).bind fun _ => reads_require _

theorem reads_readResponseArrayIndex
    (expectedArrayIndex : UInt32) :
    Reads needed (readResponseArrayIndex expectedArrayIndex) 0 := by
  refine reads_atContextTag_bind ?_ ?_
  · exact (reads_readContextValue 2).bind fun _ =>
      (reads_require _).bind fun _ => reads_pure _
  · exact (reads_require _).bind fun _ => reads_pure _

theorem reads_readPropertyAckReader
    (expectedInvokeId : UInt8)
    (expectedRequest : BacnetPropertyRequest) :
    Reads needed
      (readPropertyAckReader expectedInvokeId expectedRequest) 0 := by
  refine (reads_readPropertyAckHeader _).bind fun _ => ?_
  refine (reads_readAcknowledgedProperty _).bind fun _ => ?_
  refine (reads_readResponseArrayIndex _).bind fun _ => ?_
  refine (reads_expect 0x3E).bind fun _ => ?_
  exact reads_parseReadPropertyApplicationValue _ _

theorem reads_readPropertyAckReaderOf
    (expectedInvokeId : UInt8)
    (expectedProperty : BacnetPropertyId) :
    Reads needed
      (readPropertyAckReaderOf expectedInvokeId expectedProperty) 0 := by
  refine (reads_readPropertyAckHeader _).bind fun _ => ?_
  refine (reads_readContextValue 0).bind fun _ => ?_
  refine (reads_readContextValue 1).bind fun _ => ?_
  refine (reads_require _).bind fun _ => ?_
  refine (reads_readOptionalContextValue _ _).bind fun _ => ?_
  refine (reads_expect 0x3E).bind fun _ => ?_
  exact reads_parseReadPropertyApplicationValue _ _

/-- Every slot of a priority array is looked at behind a check. -/
theorem reads_readPrioritySlots
    (slots : Nat) :
    Reads needed (readPrioritySlots slots) 0 := by
  induction slots generalizing needed with
  | zero => exact (reads_pure []).weaken (Nat.zero_le _) le_rfl
  | succ slots inductionHypothesis =>
      refine reads_hasMore_bind ?_ (reads_require_bind nofun)
      refine reads_require_bind fun _ => ?_
      refine (show Reads 1 peek 1 from reads_peek).bind fun first => ?_
      refine (reads_require _).bind fun _ => ?_
      refine (reads_parseReadPropertyApplicationValue _ _).bind
        fun _ => ?_
      exact inductionHypothesis.bind fun _ => reads_pure _

theorem reads_readPropertyErrorReader
    (expectedInvokeId : UInt8) :
    Reads needed (readPropertyErrorReader expectedInvokeId) 0 := by
  refine (reads_readBvlcHeader (by decide) false).bind fun _ => ?_
  refine reads_readNpduHeader.bind fun _ => ?_
  refine reads_require_remaining_bind
    (fun _ passes => of_decide_eq_true passes) fun _ => ?_
  refine reads_next.bind fun _ => ?_
  refine (reads_require _).bind fun _ => ?_
  refine reads_next.bind fun _ => ?_
  refine (reads_require _).bind fun _ => ?_
  refine reads_next.bind fun _ => ?_
  exact reads_require _

theorem reads_readErrorClassAndCode :
    Reads needed readErrorClassAndCode 0 :=
  (reads_readApplicationValue 9).bind fun _ =>
    (reads_readApplicationValue 9).bind fun _ => reads_pure _

/-- The network header of this decoder skips the hop count unchecked. -/
theorem reads_readIAmNpduHeader : Reads needed readIAmNpduHeader 0 := by
  refine (reads_expect kNpduVersion).bind fun _ => ?_
  refine reads_checkedNext.bind fun npduControl => ?_
  refine reads_require_bind fun _ => ?_
  have destination :
      Reads 0
        (if npduControl &&& 0x08 != 0 then skipNpduAddress else pure ())
        0 := by
    split
    · exact reads_skipNpduAddress
    · exact reads_pure ()
  dsimp only
  split
  · refine reads_skipNpduAddress.bind fun _ => ?_
    have skips : Reads 0 (skip 1) 0 := fun _ _ => Nat.zero_le _
    exact skips.bind fun _ => destination
  · exact destination

theorem reads_iAmReader : Reads needed iAmReader 0 := by
  refine (reads_readBvlcHeader (by decide) true).bind fun _ => ?_
  refine reads_readIAmNpduHeader.bind fun _ => ?_
  refine reads_require_remaining_bind
    (fun _ _ => Nat.zero_le _) fun _ => ?_
  refine (reads_expect _).bind fun _ => ?_
  refine (reads_expect _).bind fun _ => ?_
  refine (reads_readApplicationValue 12).bind fun _ => ?_
  refine (reads_require _).bind fun _ => ?_
  refine (reads_readApplicationValue 2).bind fun _ => ?_
  refine (reads_readApplicationValue 9).bind fun _ => ?_
  refine (reads_require _).bind fun _ => ?_
  refine (reads_readApplicationValue 2).bind fun _ => ?_
  exact (reads_require _).bind fun _ => reads_pure _

end Responses

section Notifications

variable {needed : Nat}

theorem reads_readCovPropertyValue :
    Reads needed readCovPropertyValue 0 := by
  have value (property : BacnetPropertyId) (arrayIndex : UInt32) :
      Reads 0
        (do
          expect 0x2E
          let value ← parseReadPropertyApplicationValue property arrayIndex
          expect 0x2F
          if ← atContextTag 3 then
            if (← peek) &&& 0x07 < 5 then
              let _priority ← readContextValue 3
          return {
            property := property
            arrayIndex := arrayIndex
            value := value
          } : Reader BacnetCovPropertyValue) 0 := by
    refine (reads_expect 0x2E).bind fun _ => ?_
    refine (reads_parseReadPropertyApplicationValue _ _).bind
      fun value => ?_
    refine (reads_expect 0x2F).bind fun _ => ?_
    refine reads_atContextTag_bind ?_ (reads_pure _)
    refine (show Reads 1 peek 1 from reads_peek).bind fun tag => ?_
    split
    · exact (reads_readContextValue 3).bind fun _ => reads_pure _
    · exact (reads_pure _).weaken (Nat.zero_le _) le_rfl
  refine (reads_readContextValue 0).bind fun property => ?_
  refine reads_atContextTag_bind ?_ (value _ _)
  exact (reads_readContextValue 1).bind fun _ => value _ _

/-- Every round of the list of values checks for its octets. -/
theorem reads_readCovValues
    (rounds : Nat)
    (notification : BacnetCovNotification)
    (hasValue : Bool) :
    Reads needed (readCovValues rounds notification hasValue) 0 := by
  induction rounds generalizing needed notification hasValue with
  | zero => exact (reads_pure _).weaken (Nat.zero_le _) le_rfl
  | succ rounds inductionHypothesis =>
      refine reads_hasMore_bind ?_ (reads_pure _)
      refine (show Reads 1 peek 1 from reads_peek).bind fun first => ?_
      split
      · exact reads_readCovPropertyValue.bind fun _ =>
          inductionHypothesis _ _
      · exact (reads_pure _).weaken (Nat.zero_le _) le_rfl

/-- A notification behind its service. -/
def covNotificationBody
    (service : BacnetCovNotification) : Reader BacnetCovNotification := do
  let processId ← readContextValue 0
  let _initiatingDevice ← readContextValue 1
  let monitoredObject ← readContextValue 2
  let _timeRemaining ← readContextValue 3
  expect 0x4E
  let header := {
    service with
    processId := processId
    object := decodeObjectId monitoredObject
  }
  let (notification, hasValue) ←
    readCovValues (← remaining) header false
  require hasValue
  expect 0x4F
  atEnd
  return notification

theorem reads_covNotificationBody
    (service : BacnetCovNotification) :
    Reads needed (covNotificationBody service) 0 := by
  refine (reads_readContextValue 0).bind fun _ => ?_
  refine (reads_readContextValue 1).bind fun _ => ?_
  refine (reads_readContextValue 2).bind fun _ => ?_
  refine (reads_readContextValue 3).bind fun _ => ?_
  refine (reads_expect 0x4E).bind fun _ => ?_
  refine reads_remaining_bind fun _ => ?_
  refine (reads_readCovValues _ _ _).bind fun _ => ?_
  refine (reads_require _).bind fun _ => ?_
  exact (reads_expect 0x4F).bind fun _ =>
    reads_atEnd.bind fun _ => reads_pure _

/-- The confirmed form behind its first octet. -/
def confirmedCovService : Reader BacnetCovNotification := do
  require (decide (2 ≤ (← remaining)))
  skip 1
  let invokeId ← next
  require ((← next) == kServiceConfirmedCovNotification)
  return { confirmed := true, invokeId := invokeId }

/-- The first octet tells the two forms apart. -/
theorem run_readCovNotificationService_bind_cons
    {α : Type}
    (continuation : BacnetCovNotification → Reader α)
    (apdu : UInt8)
    (octets : List UInt8) :
    (readCovNotificationService >>= continuation).run (apdu :: octets) =
      if apdu = kApduUnconfirmedRequest then
        (expect kServiceUnconfirmedCovNotification >>= fun _ =>
          continuation {}).run octets
      else if apdu &&& 0xF0 = kApduConfirmedRequest then
        (confirmedCovService >>= continuation).run octets
      else
        .error .rejected := by
  have taken :
      (readCovNotificationService >>= continuation).run (apdu :: octets) =
        ((if apdu = kApduUnconfirmedRequest then do
            expect kServiceUnconfirmedCovNotification
            return {}
          else do
            require (apdu &&& 0xF0 == kApduConfirmedRequest)
            confirmedCovService : Reader BacnetCovNotification) >>=
          continuation).run octets :=
    rfl
  rw [taken]
  split
  · rw [bind_assoc]
    rfl
  · cases confirmed : apdu &&& 0xF0 == kApduConfirmedRequest with
    | false =>
        rw [if_neg (by simpa using confirmed)]
        rfl
    | true =>
        rw [if_pos (by simpa using confirmed)]
        rfl

/-- The check asks for two octets, and three are taken. -/
theorem run_confirmedCovService_bind_outOfRange_iff
    {α : Type}
    {continuation : BacnetCovNotification → Reader α}
    (continues : ∀ service, Reads 0 (continuation service) 0)
    (octets : List UInt8) :
    (confirmedCovService >>= continuation).run octets =
        .error .outOfRange ↔
      ∃ flags invokeId, octets = [flags, invokeId] := by
  match octets with
  | [] => exact iff_of_false nofun nofun
  | [_] => exact iff_of_false nofun nofun
  | [flags, invokeId] => exact iff_of_true rfl ⟨flags, invokeId, rfl⟩
  | flags :: invokeId :: service :: rest =>
      have taken :
          (confirmedCovService >>= continuation).run
              (flags :: invokeId :: service :: rest) =
            (require (service == kServiceConfirmedCovNotification) >>=
              fun _ =>
                continuation
                  { confirmed := true, invokeId := invokeId }).run rest := by
        rw [confirmedCovService]
        simp only [bind_assoc, pure_bind]
        rfl
      rw [taken]
      exact iff_of_false
        (((reads_require _).bind fun _ => continues _).run_ne rest) nofun

/--
A notification is read behind the packet exactly where two octets follow the
first one of its confirmed form.
-/
theorem run_readCovNotificationService_outOfRange_iff
    (octets : List UInt8) :
    (readCovNotificationService >>= covNotificationBody).run octets =
        .error .outOfRange ↔
      ∃ apdu flags invokeId,
        octets = [apdu, flags, invokeId] ∧
          apdu &&& 0xF0 = kApduConfirmedRequest := by
  cases octets with
  | nil =>
      exact iff_of_false nofun fun ⟨_, _, _, shape, _⟩ => nomatch shape
  | cons apdu rest =>
      rw [run_readCovNotificationService_bind_cons]
      split
      · next unconfirmed =>
        have inside :
            (expect kServiceUnconfirmedCovNotification >>= fun _ =>
                covNotificationBody {}).run rest ≠ .error .outOfRange :=
          ((reads_expect _).bind fun _ =>
            reads_covNotificationBody _).run_ne rest
        refine iff_of_false inside ?_
        rintro ⟨_, _, _, shape, confirmed⟩
        cases shape
        rw [unconfirmed] at confirmed
        exact absurd confirmed (by decide)
      · split
        · next confirmed =>
          rw [run_confirmedCovService_bind_outOfRange_iff
            reads_covNotificationBody]
          constructor
          · rintro ⟨flags, invokeId, rfl⟩
            exact ⟨apdu, flags, invokeId, rfl, confirmed⟩
          · rintro ⟨_, flags, invokeId, shape, _⟩
            cases shape
            exact ⟨flags, invokeId, rfl⟩
        · next other =>
          refine iff_of_false nofun ?_
          rintro ⟨_, _, _, shape, confirmed⟩
          cases shape
          exact other confirmed

end Notifications

/-! The decoders as readers, and every call of one. -/

section Decoders

/-- A decoder of one of the confirmed services, behind the common start. -/
def confirmedServiceReader {α : Type}
    (services : List UInt8)
    (body : BacnetConfirmedRequestHeader → Reader α) :
    Reader (Option α) := do
  match ← confirmedRequestHeaderReader with
  | none => return none
  | some confirmed =>
      if confirmed.serviceChoice ∈ services then
        return some (← body confirmed)
      else
        return none

theorem reads_confirmedServiceReader
    {α : Type}
    {needed : Nat}
    {body : BacnetConfirmedRequestHeader → Reader α}
    (services : List UInt8)
    (reads : ∀ confirmed, Reads 0 (body confirmed) 0) :
    Reads needed (confirmedServiceReader services body) 0 := by
  refine reads_confirmedRequestHeaderReader.bind fun found => ?_
  rcases found with _ | confirmed
  · exact reads_pure none
  · dsimp only
    split
    · exact (reads confirmed).bind fun _ => reads_pure _
    · exact reads_pure none

/-- The body of a confirmed request is what its header leaves unread. -/
theorem body_of_confirmedRequestHeaderReader
    {packet rest : List UInt8}
    {confirmed : BacnetConfirmedRequestHeader}
    (accepted :
      confirmedRequestHeaderReader.run packet =
        .ok (some confirmed, rest)) :
    confirmed.body = rest := by
  simp only [confirmedRequestHeaderReader, run_bind_eq_ok_iff] at accepted
  obtain ⟨_, _, _, _, _, _, more, _, _, _, _, _, first, _, _, decided⟩ :=
    accepted
  split at decided
  · cases decided
  · simp only [run_bind_eq_ok_iff] at decided
    obtain ⟨_, _, _, _, _, _, _, _, _, _, _, _, _, _, _, _, _, whole, last⟩ :=
      decided
    cases whole
    cases last
    rfl

/-- A body that fails makes the packet malformed. -/
theorem parseStatus_some
    {α : Type}
    (body : Reader α)
    (octets : List UInt8) :
    parseStatus (body >>= fun request => pure (some request)) octets =
      match parse? body octets with
      | some request => .parsed request
      | none => .malformed := by
  unfold parseStatus parse?
  rw [StateT.run_bind]
  cases body.run octets <;> rfl

/-- The decoder of a confirmed service runs its body behind the header. -/
theorem parseConfirmedService_eq
    {α : Type}
    (services : List UInt8)
    (body : BacnetConfirmedRequestHeader → Reader α)
    (packet : List UInt8) :
    parseConfirmedService services body packet =
      parseStatus (confirmedServiceReader services body) packet := by
  unfold parseConfirmedService parseConfirmedRequestHeader
  cases header : confirmedRequestHeaderReader.run packet with
  | error fault =>
      rw [parseStatus, parseStatus, confirmedServiceReader,
        StateT.run_bind, header]
      rfl
  | ok outcome =>
      obtain ⟨found | confirmed, rest⟩ := outcome
      · rw [parseStatus, parseStatus, confirmedServiceReader,
          StateT.run_bind, header]
        rfl
      · obtain rfl := body_of_confirmedRequestHeaderReader header
        have behind :
            parseStatus (confirmedServiceReader services body) packet =
              parseStatus
                (if confirmed.serviceChoice ∈ services then
                  body confirmed >>= fun request => pure (some request)
                else
                  pure none)
                confirmed.body := by
          rw [parseStatus, confirmedServiceReader, StateT.run_bind, header]
          rfl
        rw [behind, parseStatus, header]
        dsimp only
        split
        · exact (parseStatus_some _ _).symm
        · rfl

/-- The closing tag behind an acknowledged value is looked for. -/
def withClosingTag
    (reader : Reader BacnetValue) : Reader (Bool × BacnetValue) := do
  let value ← reader
  let closing ← lookAhead
  return (closing == some 0x3F, value)

theorem reads_withClosingTag
    {needed : Nat}
    {reader : Reader BacnetValue}
    (reads : Reads needed reader 0) :
    Reads needed (withClosingTag reader) 0 :=
  reads.bind fun _ => reads_lookAhead.bind fun _ => reads_pure _

/-- An acknowledgement is accepted where its closing tag follows. -/
theorem run_withClosingTag
    (reader : Reader BacnetValue)
    (packet : List UInt8) :
    (match reader.run packet with
      | .ok (value, rest) => (rest.head? == some 0x3F, value)
      | .error _ => (false, {})) =
      (parse? (withClosingTag reader) packet).getD (false, {}) := by
  rw [parse?, withClosingTag, StateT.run_bind]
  cases reader.run packet with
  | error fault => rfl
  | ok outcome =>
      obtain ⟨value, rest⟩ := outcome
      cases rest <;> rfl

theorem parseReadPropertyAck_eq
    (packet : List UInt8)
    (invokeId : UInt8)
    (request : BacnetPropertyRequest) :
    parseReadPropertyAck packet invokeId request =
      (parse? (withClosingTag (readPropertyAckReader invokeId request))
        packet).getD (false, {}) :=
  run_withClosingTag _ packet

theorem parseReadPropertyAckOf_eq
    (packet : List UInt8)
    (invokeId : UInt8)
    (property : BacnetPropertyId) :
    parseReadPropertyAckOf packet invokeId property =
      (parse? (withClosingTag (readPropertyAckReaderOf invokeId property))
        packet).getD (false, {}) :=
  run_withClosingTag _ packet

/-- The slots of a whole priority array up to the end of the packet. -/
def priorityArrayAckReader
    (expectedInvokeId : UInt8)
    (expectedRequest : BacnetPropertyRequest) :
    Reader (List BacnetValue) := do
  readPropertyAckHeader expectedInvokeId
  readAcknowledgedProperty expectedRequest
  expect 0x3E
  let slots ← readPrioritySlots 16
  expect 0x3F
  atEnd
  return slots

theorem reads_priorityArrayAckReader
    {needed : Nat}
    (expectedInvokeId : UInt8)
    (expectedRequest : BacnetPropertyRequest) :
    Reads needed
      (priorityArrayAckReader expectedInvokeId expectedRequest) 0 := by
  refine (reads_readPropertyAckHeader _).bind fun _ => ?_
  refine (reads_readAcknowledgedProperty _).bind fun _ => ?_
  refine (reads_expect 0x3E).bind fun _ => ?_
  refine (reads_readPrioritySlots 16).bind fun _ => ?_
  exact (reads_expect 0x3F).bind fun _ =>
    reads_atEnd.bind fun _ => reads_pure _

theorem parseReadPriorityArrayAck_eq
    (packet : List UInt8)
    (invokeId : UInt8)
    (request : BacnetPropertyRequest) :
    parseReadPriorityArrayAck packet invokeId request =
      if request.property = .priorityArray ∧
          request.arrayIndex = kBacnetNoArrayIndex then
        parse? (priorityArrayAckReader invokeId request) packet
      else
        none :=
  rfl

/-- The error header, and the class and code behind it. -/
def propertyErrorReader
    (expectedInvokeId : UInt8) : Reader (UInt32 × UInt32) := do
  readPropertyErrorReader expectedInvokeId
  readErrorClassAndCode

/-- The class and code of a reported error are read behind its header. -/
theorem parseReadPropertyError_of_read
    {packet : List UInt8}
    {invokeId : UInt8}
    {errorClass errorCode : UInt32}
    (read :
      parse? (propertyErrorReader invokeId) packet =
        some (errorClass, errorCode)) :
    parseReadPropertyError packet invokeId =
      (propertyErrorText errorClass errorCode).map fun text => {
        value := setTextValue {} .error text
        errorClass := errorClass
        errorCode := errorCode
      } := by
  rw [parse?, propertyErrorReader, StateT.run_bind] at read
  unfold parseReadPropertyError
  cases header : (readPropertyErrorReader invokeId).run packet with
  | error fault =>
      rw [header] at read
      cases read
  | ok outcome =>
      rw [header] at read
      have body :
          parse? readErrorClassAndCode outcome.2 =
            some (errorClass, errorCode) :=
        read
      dsimp only
      rw [body]

end Decoders

/-- The public decoders and classifiers with their arguments. -/
inductive DecoderCall where
  | parseWhoIsRequest
  | parseConfirmedRequestHeader
  | parseReadPropertyRequest
  | parseWritePropertyRequest
  | parseSubscribeCovRequest
  | classifyConfirmedCovNotificationResponse (invokeId : UInt8)
  | classifyReadPropertyResponse (invokeId : UInt8)
  | classifyWritePropertyResponse (invokeId : UInt8)
  | classifySubscribeCovResponse (invokeId service : UInt8)
  | isSimpleAck (invokeId service : UInt8)
  | parseReadPropertyAck
      (invokeId : UInt8)
      (request : BacnetPropertyRequest)
  | parseReadPropertyAckOf
      (invokeId : UInt8)
      (property : BacnetPropertyId)
  | parseReadPriorityArrayAck
      (invokeId : UInt8)
      (request : BacnetPropertyRequest)
  | parseReadPropertyError (invokeId : UInt8)
  | parseIAmResponse
  | parseCovNotification

namespace DecoderCall

/-- The reads of a call, without what they find. -/
def reader : DecoderCall → Reader Unit
  | parseWhoIsRequest => discard whoIsReader
  | parseConfirmedRequestHeader => discard confirmedRequestHeaderReader
  | parseReadPropertyRequest =>
      discard
        (confirmedServiceReader
          [kServiceReadProperty] readPropertyRequestBody)
  | parseWritePropertyRequest =>
      discard
        (confirmedServiceReader
          [kServiceWriteProperty] writePropertyRequestBody)
  | parseSubscribeCovRequest =>
      discard
        (confirmedServiceReader
          [kServiceSubscribeCov, kServiceSubscribeCovProperty]
          subscribeCovRequestBody)
  | classifyConfirmedCovNotificationResponse invokeId =>
      discard (confirmedCovNotificationResponseReader invokeId)
  | classifyReadPropertyResponse invokeId =>
      discard
        (confirmedResponseReader
          kApduComplexAck kServiceReadProperty invokeId)
  | classifyWritePropertyResponse invokeId =>
      discard
        (confirmedResponseReader
          kApduSimpleAck kServiceWriteProperty invokeId)
  | classifySubscribeCovResponse invokeId service =>
      discard (subscribeCovResponseReader invokeId service)
  | isSimpleAck invokeId service => simpleAckReader invokeId service
  | parseReadPropertyAck invokeId request =>
      discard (withClosingTag (readPropertyAckReader invokeId request))
  | parseReadPropertyAckOf invokeId property =>
      discard (withClosingTag (readPropertyAckReaderOf invokeId property))
  | parseReadPriorityArrayAck invokeId request =>
      if request.property = .priorityArray ∧
          request.arrayIndex = kBacnetNoArrayIndex then
        discard (priorityArrayAckReader invokeId request)
      else
        reject
  | parseReadPropertyError invokeId =>
      discard (propertyErrorReader invokeId)
  | parseIAmResponse => discard iAmReader
  | parseCovNotification => discard covNotificationReader

/-- The call reads no octet behind the packet. -/
def ReadsInside
    (call : DecoderCall)
    (packet : List UInt8) : Prop :=
  call.reader.run packet ≠ .error .outOfRange

/-- Forgetting the result reads nothing. -/
theorem reads_discard
    {α : Type}
    {reader : Reader α}
    (reads : Reads 0 reader 0) :
    Reads 0 (discard reader) 0 := by
  have forgotten : discard reader = reader >>= fun _ => pure () := rfl
  rw [forgotten]
  exact reads.bind fun _ => reads_pure ()

/-- Forgetting the result changes no fault. -/
theorem run_discard_eq_error_iff
    {α : Type}
    {reader : Reader α}
    {packet : List UInt8}
    {fault : ReadFault} :
    (discard reader : Reader Unit).run packet = .error fault ↔
      reader.run packet = .error fault := by
  have forgotten : discard reader = reader >>= fun _ => pure () := rfl
  rw [forgotten, StateT.run_bind]
  cases reader.run packet with
  | error raised =>
      constructor
      · intro failed
        cases failed
        rfl
      · intro failed
        cases failed
        rfl
  | ok outcome => exact iff_of_false nofun nofun

/-- Every other decoder checks for the octets it reads. -/
theorem reads_reader
    (call : DecoderCall)
    (other : call ≠ .parseCovNotification) :
    Reads 0 call.reader 0 := by
  cases call with
  | parseWhoIsRequest => exact reads_discard reads_whoIsReader
  | parseConfirmedRequestHeader =>
      exact reads_discard reads_confirmedRequestHeaderReader
  | parseReadPropertyRequest =>
      exact reads_discard
        (reads_confirmedServiceReader _ reads_readPropertyRequestBody)
  | parseWritePropertyRequest =>
      exact reads_discard
        (reads_confirmedServiceReader _ reads_writePropertyRequestBody)
  | parseSubscribeCovRequest =>
      exact reads_discard
        (reads_confirmedServiceReader _ reads_subscribeCovRequestBody)
  | classifyConfirmedCovNotificationResponse invokeId =>
      exact reads_discard
        (reads_confirmedCovNotificationResponseReader invokeId)
  | classifyReadPropertyResponse invokeId =>
      exact reads_discard (reads_confirmedResponseReader _ _ invokeId)
  | classifyWritePropertyResponse invokeId =>
      exact reads_discard (reads_confirmedResponseReader _ _ invokeId)
  | classifySubscribeCovResponse invokeId service =>
      exact reads_discard (reads_subscribeCovResponseReader _ _)
  | isSimpleAck invokeId service => exact reads_simpleAckReader _ _
  | parseReadPropertyAck invokeId request =>
      exact reads_discard
        (reads_withClosingTag (reads_readPropertyAckReader _ _))
  | parseReadPropertyAckOf invokeId property =>
      exact reads_discard
        (reads_withClosingTag (reads_readPropertyAckReaderOf _ _))
  | parseReadPriorityArrayAck invokeId request =>
      change Reads 0
        (if request.property = .priorityArray ∧
            request.arrayIndex = kBacnetNoArrayIndex then
          discard (priorityArrayAckReader invokeId request)
        else
          reject) 0
      split
      · exact reads_discard (reads_priorityArrayAckReader _ _)
      · exact reads_reject
  | parseReadPropertyError invokeId =>
      exact reads_discard
        ((reads_readPropertyErrorReader invokeId).bind
          fun _ => reads_readErrorClassAndCode)
  | parseIAmResponse => exact reads_discard reads_iAmReader
  | parseCovNotification => exact absurd rfl other

/--
A packet that ends two octets behind the first one of a confirmed request:
the link header allows it to be a notification, the service choice is
missing.
-/
def Truncated (packet : List UInt8) : Prop :=
  20 ≤ packet.length ∧
    ∃ apdu flags invokeId,
      apdu? packet = some [apdu, flags, invokeId] ∧
        apdu &&& 0xF0 = kApduConfirmedRequest

/-- The two headers in front of a notification. -/
def covNotificationHeaders : Reader Unit := do
  readBvlcHeader 20 true
  readNpduHeader

/-- The link header starts with a check of the packet length. -/
theorem readBvlcHeader_checksLength
    (acceptBroadcast : Bool)
    (packet : List UInt8) :
    ∃ body : Reader Unit,
      ∀ minimumLength,
        (readBvlcHeader minimumLength acceptBroadcast).run packet =
          if minimumLength ≤ packet.length then
            body.run packet
          else
            .error .rejected := by
  refine ⟨(do
    let bvlcType ← next
    let bvlcFunction ← next
    let lengthHigh ← next
    let lengthLow ← next
    require (bvlcType == kBvlcTypeBacnetIp &&
      (bvlcFunction == kBvlcOriginalUnicastNpdu ||
        (acceptBroadcast && bvlcFunction == kBvlcOriginalBroadcastNpdu)) &&
      lengthHigh.toNat * 256 + lengthLow.toNat == packet.length)),
    fun minimumLength => ?_⟩
  split
  · next longEnough =>
    have passes : decide (minimumLength ≤ packet.length) = true :=
      decide_eq_true longEnough
    unfold readBvlcHeader
    rw [StateT.run_bind, run_remaining]
    change StateT.run (require (decide (minimumLength ≤ packet.length)) >>=
      fun _ => _) packet = _
    rw [passes]
    rfl
  · next short =>
    have fails : decide (minimumLength ≤ packet.length) = false :=
      decide_eq_false short
    unfold readBvlcHeader
    rw [StateT.run_bind, run_remaining]
    change StateT.run (require (decide (minimumLength ≤ packet.length)) >>=
      fun _ => _) packet = _
    rw [fails]
    rfl

/-- A notification of at least 20 octets has the headers of any packet. -/
theorem run_covNotificationHeaders
    (packet : List UInt8) :
    covNotificationHeaders.run packet =
      if 20 ≤ packet.length then
        (do readBvlcHeader 4 true; readNpduHeader : Reader Unit).run packet
      else
        .error .rejected := by
  obtain ⟨body, checked⟩ := readBvlcHeader_checksLength true packet
  rw [covNotificationHeaders, StateT.run_bind, StateT.run_bind, checked,
    checked]
  split
  · next longEnough =>
    rw [if_pos (le_trans (by decide) longEnough)]
  · rfl

/-- Where the headers pass, the application octets are behind them. -/
theorem run_covNotificationHeaders_eq_ok_iff
    {packet octets : List UInt8} :
    covNotificationHeaders.run packet = .ok ((), octets) ↔
      20 ≤ packet.length ∧ apdu? packet = some octets := by
  rw [run_covNotificationHeaders, apdu?]
  split
  · next longEnough =>
    rw [and_iff_right longEnough]
    cases (do readBvlcHeader 4 true; readNpduHeader : Reader Unit).run
        packet with
    | error fault => simp
    | ok outcome => simp [Prod.ext_iff]
  · next short => simp [short]

/-- The decoder of notifications reads behind truncated packets. -/
theorem run_covNotificationReader_outOfRange_iff
    (packet : List UInt8) :
    covNotificationReader.run packet = .error .outOfRange ↔
      Truncated packet := by
  have parts :
      covNotificationReader =
        covNotificationHeaders >>= fun _ =>
          readCovNotificationService >>= covNotificationBody := by
    rw [covNotificationHeaders, bind_assoc]
    rfl
  have inside : covNotificationHeaders.run packet ≠ .error .outOfRange :=
    (show Reads 0 covNotificationHeaders 0 from
      (reads_readBvlcHeader (by decide) true).bind
        fun _ => reads_readNpduHeader).run_ne packet
  rw [parts, StateT.run_bind]
  cases headers : covNotificationHeaders.run packet with
  | error fault =>
      refine iff_of_false ?_ ?_
      · intro failed
        cases failed
        exact inside headers
      · rintro ⟨longEnough, _, _, _, found, _⟩
        have passed :=
          run_covNotificationHeaders_eq_ok_iff.mpr ⟨longEnough, found⟩
        rw [headers] at passed
        cases passed
  | ok outcome =>
      obtain ⟨⟨⟩, octets⟩ := outcome
      obtain ⟨longEnough, found⟩ :=
        run_covNotificationHeaders_eq_ok_iff.mp headers
      refine (run_readCovNotificationService_outOfRange_iff octets).trans ?_
      unfold Truncated
      rw [found, and_iff_right longEnough]
      simp only [Option.some.injEq]

/--
A decoder reads behind a packet exactly where a notification of at least 20
octets ends two octets behind the first one of a confirmed request.
-/
theorem readsInside_iff
    (call : DecoderCall)
    (packet : List UInt8) :
    call.ReadsInside packet ↔
      (call = .parseCovNotification → ¬Truncated packet) := by
  by_cases isCov : call = .parseCovNotification
  · subst isCov
    rw [imp_iff_right rfl]
    exact not_congr
      (run_discard_eq_error_iff.trans
        (run_covNotificationReader_outOfRange_iff packet))
  · exact iff_of_true ((reads_reader call isCov).run_ne packet)
      fun same => absurd same isCov

/--
A confirmed notification of 20 octets with a source network address, cut off
in front of its service choice.
-/
theorem not_readsInside_truncatedNotification :
    ¬parseCovNotification.ReadsInside
      [0x81, 0x0A, 0x00, 0x14, 0x01, 0x08, 0x00, 0x01, 0x08,
        0x01, 0x02, 0x03, 0x04, 0x05, 0x06, 0x07, 0x08, 0x00, 0x05, 0x07] :=
  fun inside => inside rfl

end DecoderCall

end BacnetStack
