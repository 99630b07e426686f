import BacnetStack.ServerCovAcknowledgement

namespace BacnetStack

open EventRun

/-!
# Pending invoke ids

All notifications draw their invoke ids from one octet that wraps.  Nothing
compares a drawn id with those still pending, so two slots of one peer can
come to await the same id, and exactly then a reply can reach the wrong one.
-/

namespace BacnetServer

variable (server : BacnetServer)

/-- No two slots await the same invoke id from the same peer. -/
def PendingIdsDistinct : Prop :=
  ∀ peer invokeId first second,
    server.awaitsReply peer invokeId first →
    server.awaitsReply peer invokeId second →
    first = second

/-- A reply to the notification of a slot completes that slot and no other. -/
def RepliesOwned : Prop :=
  ∀ (input : PollInput) (invokeId : UInt8) (index : CovIndex),
    server.Ready →
    input.packet.length ≤ kMaxDatagramSize →
    server.awaitsReply input.source invokeId index →
    classifyConfirmedCovNotificationResponse input.packet invokeId ≠
      .none →
    (server.poll input).server.covSlots =
      Function.update server.covSlots index
        (server.completeSlot input (server.covSlots index))

/-- With distinct pending ids every reply finds its own slot. -/
theorem repliesOwned_of_distinct
    (distinct : server.PendingIdsDistinct) :
    server.RepliesOwned := by
  intro input invokeId index ready fits waits answers
  have answered : server.answeredSlot? input = some index := by
    rw [server.answeredSlot?_eq_some_iff answers]
    refine ⟨waits, fun earlier smaller alsoWaits => ?_⟩
    have same := distinct _ _ earlier index alsoWaits waits
    exact smaller.ne same
  rw [server.covSlots_poll_response ready fits answers, answered]

/--
An idle poll delivers a confirmed notification under an invoke id that
another slot still awaits from the same peer.
-/
def DrawsPendingId (input : PollInput) : Prop :=
  ∃ index slot values isRetransmission other,
    server.Ready ∧
    input.packet = [] ∧
    server.shadowed (server.nowMs input.clockMs) index = false ∧
    server.visit (server.nowMs input.clockMs) index =
      .send slot values isRetransmission ∧
    slot.subscription.confirmed = true ∧
    server.delivers input.sendSucceeds (server.nowMs input.clockMs)
      slot.subscription values = true ∧
    other ≠ index ∧
    (server.passSlots (server.nowMs input.clockMs)
      (slotsBefore index)).awaitsReply slot.subscription.peer
        server.nextCovInvokeId other

/-- The step draws no invoke id that is still pending. -/
def FreshDraw (event : ServerEvent) : Prop :=
  ∀ input, event = .poll input → ¬server.DrawsPendingId input

end BacnetServer

/-- A step that sends nothing gives no slot a pending id it did not have. -/
theorem RecordStep.awaits_of_unsent
    {server : BacnetServer}
    {event : ServerEvent}
    {index : CovIndex}
    {slot slot' : CovSlot}
    {history history' : List CovTransmission}
    (change :
      RecordStep server event index slot history slot' history')
    (silent : server.Silent index event)
    (awaiting : slot'.subscription.state = .awaitingConfirmedAck) :
    slot'.subscription = slot.subscription := by
  cases change with
  | kept =>
      rfl
  | dropped cause =>
      simp [CovSlot.drop] at awaiting
  | activated input request isPoll parsed accepted subscribes target =>
      simp [activatedSlot] at awaiting
  | completed input isPoll _ samePeer answers =>
      simp [BacnetServer.completeSlot] at awaiting
  | passed input after isPoll idle visited =>
      rcases visitSlot_next_cases visited
        with rfl | ⟨_, _, rfl⟩ | ⟨_, _, _, _, _, rfl⟩
      · rfl
      · simp [CovSlot.expire, CovSlot.drop] at awaiting
      · simp [CovSlot.giveUp] at awaiting
  | sent input after transmission isPoll idle visited built place =>
      exact (silent input transmission isPoll built place).elim

namespace BacnetServer

variable {server : BacnetServer}

/-- What a silent step leaves awaiting was awaiting before. -/
theorem awaitsReply_of_silent
    {event : ServerEvent}
    {index : CovIndex}
    (silent : server.Silent index event)
    {peer : BacnetIpEndpoint}
    {invokeId : UInt8}
    (waits : (server.step event).awaitsReply peer invokeId index) :
    server.awaitsReply peer invokeId index := by
  obtain ⟨_, change⟩ := TrackedServer.slotStep server event index
  have same := change.awaits_of_unsent silent waits.1
  unfold awaitsReply at waits ⊢
  rw [same] at waits
  exact waits

/-- The slot an idle poll delivered a confirmed notification for. -/
theorem awaitsReply_of_delivered
    {input : PollInput}
    {index : CovIndex}
    {slot : CovSlot}
    {values : List BacnetCovPropertyValue}
    {isRetransmission : Bool}
    (ready : server.Ready)
    (idle : input.packet = [])
    (reached :
      server.shadowed (server.nowMs input.clockMs) index = false)
    (sends :
      server.visit (server.nowMs input.clockMs) index =
        .send slot values isRetransmission)
    (delivers :
      server.delivers input.sendSucceeds (server.nowMs input.clockMs)
        slot.subscription values = true)
    (peer : BacnetIpEndpoint)
    (invokeId : UInt8) :
    (server.step (.poll input)).awaitsReply peer invokeId index ↔
      slot.subscription.confirmed = true ∧
        slot.subscription.peer = peer ∧
        server.nextCovInvokeId = invokeId := by
  rw [step, server.poll_send ready idle reached sends]
  simp only [awaitsReply, sendCovNotification, setSlot_covSlots,
    Function.update_self, sentSlot_passSlots,
    server.sentSlot_of_delivers delivers, completedSend, storeCovValues]
  cases slot.subscription.confirmed <;> simp [drawInvokeId]

/-- Slots next to the one that sends are as the scan left them. -/
theorem awaitsReply_of_scanned
    {input : PollInput}
    {index other : CovIndex}
    {slot : CovSlot}
    {values : List BacnetCovPropertyValue}
    {isRetransmission : Bool}
    (ready : server.Ready)
    (idle : input.packet = [])
    (reached :
      server.shadowed (server.nowMs input.clockMs) index = false)
    (sends :
      server.visit (server.nowMs input.clockMs) index =
        .send slot values isRetransmission)
    (different : other ≠ index)
    (peer : BacnetIpEndpoint)
    (invokeId : UInt8) :
    (server.step (.poll input)).awaitsReply peer invokeId other ↔
      (server.passSlots (server.nowMs input.clockMs)
        (slotsBefore index)).awaitsReply peer invokeId other := by
  rw [step, server.poll_send ready idle reached sends]
  simp only [awaitsReply, sendCovNotification, setSlot_covSlots,
    Function.update_of_ne different]

/-- The sending slot shares its pending id only after a pending draw. -/
private theorem not_shared_with_sender
    (distinct : server.PendingIdsDistinct)
    {input : PollInput}
    (fresh : ¬server.DrawsPendingId input)
    {transmission : CovTransmission}
    (built : (server.poll input).transmission = some transmission)
    {other : CovIndex}
    (different : other ≠ transmission.index)
    {peer : BacnetIpEndpoint}
    {invokeId : UInt8}
    (senderWaits :
      (server.step (.poll input)).awaitsReply peer invokeId
        transmission.index) :
    ¬(server.step (.poll input)).awaitsReply peer invokeId other := by
  intro otherWaits
  obtain ⟨ready, idle, reached, slot, sends, _, _⟩ :=
    server.poll_transmission built
  have otherSilent : server.Silent other (.poll input) := by
    intro input' built' isPoll found
    obtain rfl := ServerEvent.poll.inj isPoll
    obtain rfl := Option.some.inj (built.symm.trans found)
    exact different.symm
  cases delivers :
      server.delivers input.sendSucceeds (server.nowMs input.clockMs)
        slot.subscription transmission.values with
  | true =>
      obtain ⟨confirmed, rfl, rfl⟩ :=
        (awaitsReply_of_delivered ready idle reached sends delivers
          peer invokeId).mp senderWaits
      exact fresh ⟨transmission.index, slot, transmission.values,
        transmission.isRetransmission, other, ready, idle, reached, sends,
        confirmed, delivers, different,
        (awaitsReply_of_scanned ready idle reached sends different
          _ _).mp otherWaits⟩
  | false =>
      have sameSubscription :
          slot.subscription =
            (server.covSlots transmission.index).subscription := by
        rcases visitSlot_send_cases sends
          with ⟨_, _, ⟨_, _, _, _, _, rfl⟩ | ⟨_, _, _, _, rfl⟩⟩ <;> rfl
      have senderWaited :
          server.awaitsReply peer invokeId transmission.index := by
        rw [step, server.poll_send ready idle reached sends] at senderWaits
        simp only [awaitsReply, sendCovNotification, setSlot_covSlots,
          Function.update_self, sentSlot_passSlots,
          server.sentSlot_of_fails delivers, failedSend,
          sameSubscription] at senderWaits
        exact senderWaits
      exact different
        (distinct peer invokeId _ _
          (awaitsReply_of_silent otherSilent otherWaits) senderWaited)

/-- A step that draws no pending id keeps the pending ids distinct. -/
theorem pendingIdsDistinct_step
    (distinct : server.PendingIdsDistinct)
    {event : ServerEvent}
    (fresh : server.FreshDraw event) :
    (server.step event).PendingIdsDistinct := by
  intro peer invokeId first second firstWaits secondWaits
  by_contra different
  by_cases builds :
      ∃ input transmission,
        event = .poll input ∧
        (server.poll input).transmission = some transmission
  · obtain ⟨input, transmission, rfl, built⟩ := builds
    have freshInput := fresh input rfl
    by_cases firstSends : first = transmission.index
    · subst firstSends
      exact not_shared_with_sender distinct freshInput built
        (Ne.symm different) firstWaits secondWaits
    · by_cases secondSends : second = transmission.index
      · subst secondSends
        exact not_shared_with_sender distinct freshInput built
          different secondWaits firstWaits
      · have silent
            {index : CovIndex}
            (elsewhere : index ≠ transmission.index) :
            server.Silent index (.poll input) := by
          intro input' built' isPoll found
          obtain rfl := ServerEvent.poll.inj isPoll
          obtain rfl := Option.some.inj (built.symm.trans found)
          exact elsewhere.symm
        exact different
          (distinct peer invokeId first second
            (awaitsReply_of_silent (silent firstSends) firstWaits)
            (awaitsReply_of_silent (silent secondSends) secondWaits))
  · have silent (index : CovIndex) : server.Silent index event := by
      intro input transmission isPoll built
      exact (builds ⟨input, transmission, isPoll, built⟩).elim
    exact different
      (distinct peer invokeId first second
        (awaitsReply_of_silent (silent first) firstWaits)
        (awaitsReply_of_silent (silent second) secondWaits))

/-- After a pending id was drawn two slots share it. -/
theorem not_pendingIdsDistinct_of_draws
    {input : PollInput}
    (draws : server.DrawsPendingId input) :
    ¬(server.step (.poll input)).PendingIdsDistinct := by
  obtain ⟨index, slot, values, isRetransmission, other, ready, idle,
    reached, sends, confirmed, delivers, different, waits⟩ := draws
  intro distinct
  exact different
    (distinct slot.subscription.peer server.nextCovInvokeId other index
      ((awaitsReply_of_scanned ready idle reached sends different
        _ _).mpr waits)
      ((awaitsReply_of_delivered ready idle reached sends delivers
        _ _).mpr ⟨confirmed, rfl, rfl⟩))

/--
In a run the pending ids stay distinct, and every reply reaches its own slot,
precisely when no step draws an id that is still pending.
-/
theorem pendingIds_distinct_iff
    (events : List ServerEvent) :
    (∀ earlier, earlier <+: events →
        (run step {} earlier).PendingIdsDistinct ∧
          (run step {} earlier).RepliesOwned) ↔
      Along step FreshDraw {} events := by
  constructor
  · intro always
    replace always :
        ∀ earlier, earlier <+: events →
          (run step {} earlier).PendingIdsDistinct :=
      fun earlier isPrefix => (always earlier isPrefix).1
    generalize ({} : BacnetServer) = server at always
    induction events generalizing server with
    | nil =>
        trivial
    | cons event rest inductionHypothesis =>
        refine ⟨?_, inductionHypothesis (server.step event) ?_⟩
        · rintro input rfl draws
          exact not_pendingIdsDistinct_of_draws draws
            (always [.poll input] (by simp))
        · intro earlier isPrefix
          exact always (event :: earlier) (by simpa using isPrefix)
  · rintro along earlier ⟨later, rfl⟩
    have distinct : (run step {} earlier).PendingIdsDistinct := by
      refine run_invariant_along PendingIdsDistinct ?_ ?_
        (along_append.mp along).1
      · exact fun server event fresh distinct =>
          pendingIdsDistinct_step distinct fresh
      · rintro peer invokeId first second ⟨awaiting, _⟩
        cases awaiting
    exact ⟨distinct, repliesOwned_of_distinct _ distinct⟩

/-- Renew the subscription to the present value and notify it again. -/
def renewal : List ServerEvent :=
  [.poll { packet := subscribeToProperty .presentValue true }, .poll {}]

/-- The object name stays unanswered while the present value is renewed. -/
def renewalRun (renewals : Nat) : List ServerEvent :=
  startedServer (oneAnalogValue .one) ++
    [.poll { packet := subscribeToProperty .objectName true }, .poll {}] ++
    (List.replicate (1 + renewals) renewal).flatten

/-- The invoke id after this one. -/
def followingId (invokeId : UInt8) : UInt8 :=
  if invokeId + 1 = 0 then 1 else invokeId + 1

/-- The subscription that is never answered. -/
def nameSubscription : BacnetServerCovSubscription :=
  { state := .awaitingConfirmedAck
    processId := 1
    object := ⟨BacnetObjectType.analogValue, 1⟩
    property := .objectName
    isPropertySubscription := true
    confirmed := true
    lifetimeSeconds := 60
    expiresAtMs := 60000
    pendingInvokeId := 1 }

/-- The subscription that is renewed, after its notification. -/
def presentSubscription
    (invokeId : UInt8) : BacnetServerCovSubscription :=
  { nameSubscription with
    property := .presentValue
    pendingInvokeId := invokeId }

/-- The request that renews it. -/
def renewalRequest : BacnetSubscribeCovRequestHeader :=
  { processId := 1
    object := ⟨BacnetObjectType.analogValue, 1⟩
    isPropertySubscription := true
    property := .presentValue
    issueConfirmedNotifications := true
    lifetimeSeconds := 60 }

/-- The state between two renewals, by the last drawn invoke id. -/
structure Renewed
    (server : BacnetServer)
    (lastId : UInt8) : Prop where
  ready : server.Ready
  clock : server.hasClock = true
  device : server.device = {}
  objects : server.objects = oneAnalogValue .one
  counter : server.nextCovInvokeId = followingId lastId
  name : (server.covSlots 0).subscription = nameSubscription
  noBackoff : (server.covSlots 0).retryAtMs = 0
  present :
    (server.covSlots 1).subscription = presentSubscription lastId

/-- The renewed slot after its request was accepted at time 0. -/
def renewedSlot (slot : CovSlot) : CovSlot :=
  activatedSlot {} renewalRequest 60000 slot

/-- The renewal is accepted in slot 1. -/
private theorem poll_renewal
    {lastId : UInt8}
    (renewed : Renewed server lastId) :
    (server.step (.poll {
        packet := subscribeToProperty .presentValue true })) =
      server.setSlot 1 (renewedSlot (server.covSlots 1)) := by
  have parsed :
      parseSubscribeCovRequest (subscribeToProperty .presentValue true) =
        .parsed renewalRequest := by
    decide
  have accepted : renewalRequest.refusal server.objects = none := by
    rw [renewed.objects]
    rfl
  have matched :
      server.matchedSlot? (renewalRequest.tuple {}) = some 1 := by
    rw [matchedSlot?, List.find?_finRange_eq_some_iff]
    dsimp only
    refine ⟨by rw [renewed.present]; rfl, ?_⟩
    intro earlier smaller
    obtain rfl : earlier = 0 := Fin.ext (Nat.lt_one_iff.mp smaller)
    rw [renewed.name]
    rfl
  have deadline :
      server.expiryDeadline {
          packet := subscribeToProperty .presentValue true }
        renewalRequest.lifetimeSeconds = 60000 := by
    rw [expiryDeadline, renewed.clock]
    rfl
  rw [step, server.poll_subscribe renewed.ready (by decide) parsed]
  have lasts : renewalRequest.lifetimeSeconds ≠ 0 := by decide
  simp only [handleSubscribeCov, accepted, matched, Option.some_or,
    if_neg lasts, acknowledgeSubscribe, sendReply_server]
  rw [deadline]
  rfl

/-- The renewed subscription is notified with the next invoke id. -/
private theorem poll_renewed
    {lastId : UInt8}
    (renewed : Renewed server lastId) :
    Renewed
      ((server.setSlot 1 (renewedSlot (server.covSlots 1))).step (.poll {}))
      (followingId lastId) := by
  generalize scanned :
    server.setSlot 1 (renewedSlot (server.covSlots 1)) = renewing
  have ready : renewing.Ready := by
    rw [← scanned]
    exact ⟨renewed.ready.running, renewed.ready.transport⟩
  have clock : renewing.hasClock = true := by
    rw [← scanned]
    exact renewed.clock
  have device : renewing.device = {} := by
    rw [← scanned]
    exact renewed.device
  have objects : renewing.objects = oneAnalogValue .one := by
    rw [← scanned]
    exact renewed.objects
  have counter : renewing.nextCovInvokeId = followingId lastId := by
    rw [← scanned]
    exact renewed.counter
  have nameSlot : renewing.covSlots 0 = server.covSlots 0 := by
    rw [← scanned]
    rfl
  have presentSlot :
      renewing.covSlots 1 = renewedSlot (server.covSlots 1) := by
    rw [← scanned, setSlot_covSlots, Function.update_self]
  have now : renewing.nowMs ({} : PollInput).clockMs = 0 := by
    simp [nowMs]
  have nameVisit : renewing.visit 0 0 = .next (server.covSlots 0) := by
    rw [visit, nameSlot, clock, device]
    have noBackoff : backoffPending 0 (server.covSlots 0) = false := by
      simp [backoffPending, renewed.noBackoff]
    have awaiting :
        (server.covSlots 0).subscription.state =
          .awaitingConfirmedAck := by
      rw [renewed.name]
      rfl
    have alive :
        lifetimeOver true 0 (server.covSlots 0).subscription = false := by
      rw [renewed.name]
      decide
    have early :
        acknowledgementOverdue {} true 0
          (server.covSlots 0).subscription = false := by
      rw [renewed.name]
      decide
    simp [visitSlot, awaiting, alive, noBackoff, early]
  have presentVisit :
      renewing.visit 0 1 =
        .send (renewedSlot (server.covSlots 1))
          (presentValueReport .one) false := by
    rw [visit, presentSlot, clock, device, objects]
    rfl
  have reached : renewing.shadowed 0 1 = false := by
    rw [shadowed_eq_false_iff]
    intro earlier smaller
    obtain rfl : earlier = 0 := Fin.ext (Nat.lt_one_iff.mp smaller)
    rw [nameVisit]
    rfl
  have delivers :
      renewing.delivers true 0
        (renewedSlot (server.covSlots 1)).subscription
        (presentValueReport .one) = true := by
    have remaining :
        renewing.timeRemaining
          (renewedSlot (server.covSlots 1)).subscription 0 = 60 := by
      simp [timeRemaining, clock, renewedSlot, activatedSlot,
        renewalRequest]
    rw [BacnetServer.delivers, covNotificationPacket, remaining,
      deviceObject, device, Bool.and_true]
    exact presentValue_packet_built renewing.nextCovInvokeId
  have output :=
    renewing.poll_send ready rfl (by rw [now]; exact reached)
      (by rw [now]; exact presentVisit)
  rw [now] at output
  have configuration := renewing.poll_configuration {}
  have sameConfiguration :
      (renewing.step (.poll {})).Ready ∧
        (renewing.step (.poll {})).hasClock = true ∧
        (renewing.step (.poll {})).device = {} := by
    rw [step, configuration]
    exact ⟨⟨ready.running, ready.transport⟩, clock, device⟩
  have nameKept :
      (renewing.step (.poll {})).covSlots 0 = server.covSlots 0 := by
    simp [step, output, sendCovNotification, passSlots, nameVisit,
      SlotVisit.passed]
  have presentSent :
      (renewing.step (.poll {})).covSlots 1 =
        completedSend 0 (followingId lastId) (presentValueReport .one)
          (renewedSlot (server.covSlots 1)) := by
    simp only [step, output, sendCovNotification, setSlot_covSlots,
      Function.update_self, sentSlot_passSlots,
      renewing.sentSlot_of_delivers delivers, ← counter]
    rfl
  refine ⟨sameConfiguration.1, sameConfiguration.2.1,
    sameConfiguration.2.2, ?_, ?_, ?_, ?_, ?_⟩
  · rw [step, output]
    exact objects
  · rw [step, output, ← counter]
    rfl
  · rw [nameKept]
    exact renewed.name
  · rw [nameKept]
    exact renewed.noBackoff
  · rw [presentSent]
    rfl

/-- The last drawn id after some renewals. -/
private theorem renewed_after
    (renewals : Nat) :
    Renewed (run step {} (renewalRun renewals))
      (followingId^[renewals] 2) := by
  induction renewals with
  | zero =>
      exact ⟨⟨rfl, rfl⟩, rfl, rfl, rfl, rfl, by decide, rfl, by decide⟩
  | succ renewals inductionHypothesis =>
      have last :
          renewalRun (renewals + 1) = renewalRun renewals ++ renewal := by
        rw [renewalRun, renewalRun, ← Nat.add_assoc,
          List.replicate_succ', List.flatten_append]
        simp
      rw [last, run_append, Function.iterate_succ_apply']
      have accepted := poll_renewal inductionHypothesis
      have sent := poll_renewed inductionHypothesis
      rw [← accepted] at sent
      exact sent

/-- A reply to the shared id completes the slot that did not send last. -/
private theorem completes_other
    (renewed : Renewed server 1) :
    server.awaitsReply {} 1 0 ∧
      server.awaitsReply {} 1 1 ∧
      ((server.step (.poll {
        packet := notificationAck 1 })).covSlots 0).subscription.state =
          .active ∧
      ((server.step (.poll {
        packet := notificationAck 1 })).covSlots 1).subscription.state =
          .awaitingConfirmedAck := by
  have nameWaits : server.awaitsReply {} 1 0 := by
    simp [awaitsReply, renewed.name, nameSubscription]
  have presentWaits : server.awaitsReply {} 1 1 := by
    simp [awaitsReply, renewed.present, presentSubscription,
      nameSubscription]
  refine ⟨nameWaits, presentWaits, ?_⟩
  let input : PollInput := { packet := notificationAck 1 }
  have answers :
      classifyConfirmedCovNotificationResponse input.packet 1 ≠ .none := by
    decide
  have first : server.answeredSlot? input = some 0 :=
    (server.answeredSlot?_eq_some_iff answers 0).mpr
      ⟨nameWaits, fun earlier smaller =>
        (Fin.not_lt_zero earlier smaller).elim⟩
  have after :=
    server.covSlots_poll_response renewed.ready (by decide) answers
  rw [first] at after
  rw [step, after]
  exact ⟨rfl, presentWaits.1⟩

/--
After 254 renewals the unanswered id is drawn a second time, and the
acknowledgement of the renewed subscription completes the other one.
-/
theorem renewalRun_shares_id :
    (run step {} (renewalRun 254)).awaitsReply {} 1 0 ∧
      (run step {} (renewalRun 254)).awaitsReply {} 1 1 ∧
      (((run step {} (renewalRun 254)).step (.poll {
        packet := notificationAck 1 })).covSlots 0).subscription.state =
          .active ∧
      (((run step {} (renewalRun 254)).step (.poll {
        packet := notificationAck 1 })).covSlots 1).subscription.state =
          .awaitingConfirmedAck := by
  have wrapped : followingId^[254] 2 = 1 := by decide +kernel
  have renewed := renewed_after 254
  rw [wrapped] at renewed
  exact completes_other renewed

end BacnetServer

end BacnetStack
