import BacnetStack.ClientQuiet

namespace BacnetStack

/-!
# The read a session waits for

A read job and a scan each have one ReadProperty request in flight, and any
poll of the client may receive the response to it.  A response that was
received must have ended the wait: a session that still waits has received no
answer since it sent its request.
-/

/-- A ReadProperty request that a session waits for. -/
structure InFlightRead where
  invokeId : UInt8
  request : BacnetPropertyRequest
  deriving Repr, DecidableEq

namespace InFlightRead

variable (read : InFlightRead)

/-- A datagram is the response to a request. -/
def IsAnsweredBy (datagram : ReceivedDatagram) : Prop :=
  (readPropertyOutcome datagram.packet read.invokeId
    read.request).status ≠ .none

instance (datagram : ReceivedDatagram) :
    Decidable (read.IsAnsweredBy datagram) :=
  inferInstanceAs (Decidable (_ ≠ _))

/-- The transport accepted a request to an endpoint. -/
def IsSent (endpoint : BacnetIpEndpoint) : ClientTraffic → Prop
  | .sent destination packet accepted =>
      accepted = true ∧ destination = endpoint ∧
        buildReadPropertyRequest 25 read.request read.invokeId = some packet
  | .received _ | .notified _ => False

instance
    (endpoint : BacnetIpEndpoint)
    (entry : ClientTraffic) :
    Decidable (read.IsSent endpoint entry) :=
  match entry with
  | .sent _ _ _ => inferInstanceAs (Decidable (_ ∧ _))
  | .received _ | .notified _ => inferInstanceAs (Decidable False)

/-- What passed the socket since a request was sent, newest first. -/
def since
    (endpoint : BacnetIpEndpoint)
    (traffic : List ClientTraffic) : List ClientTraffic :=
  traffic.takeWhile fun entry => !decide (read.IsSent endpoint entry)

/-- No response was received since a request was sent. -/
def IsUnanswered
    (endpoint : BacnetIpEndpoint)
    (traffic : List ClientTraffic) : Prop :=
  ∀ datagram, .received datagram ∈ read.since endpoint traffic →
    ¬read.IsAnsweredBy datagram

variable {read}

/-- A request that was sent last. -/
theorem isUnanswered_of_sent
    {endpoint : BacnetIpEndpoint}
    {entry : ClientTraffic}
    (sent : read.IsSent endpoint entry)
    (traffic : List ClientTraffic) :
    read.IsUnanswered endpoint (entry :: traffic) := by
  intro datagram isMember
  have nothing : read.since endpoint (entry :: traffic) = [] := by
    refine List.takeWhile_cons_of_neg ?_
    rw [Bool.not_eq_true', decide_eq_false_iff_not]
    exact fun unsent => unsent sent
  rw [nothing] at isMember
  exact absurd isMember List.not_mem_nil

/-- More traffic, without a response in it. -/
theorem IsUnanswered.append
    {endpoint : BacnetIpEndpoint}
    {traffic : List ClientTraffic}
    (unanswered : read.IsUnanswered endpoint traffic)
    {new : List ClientTraffic}
    (others :
      ∀ datagram, .received datagram ∈ new → ¬read.IsAnsweredBy datagram) :
    read.IsUnanswered endpoint (new ++ traffic) := by
  induction new with
  | nil => exact unanswered
  | cons entry rest inductionHypothesis =>
      intro datagram isMember
      have isLater :
          .received datagram ∈
            entry :: read.since endpoint (rest ++ traffic) := by
        change .received datagram ∈
          List.takeWhile _ (entry :: (rest ++ traffic)) at isMember
        rw [List.takeWhile_cons] at isMember
        split at isMember
        · exact isMember
        · exact absurd isMember List.not_mem_nil
      rcases List.mem_cons.mp isLater with rfl | isRest
      · exact others datagram List.mem_cons_self
      · exact inductionHypothesis
          (fun later isMember =>
            others later (List.mem_cons_of_mem _ isMember))
          datagram isRest

end InFlightRead

namespace BacnetClient

variable {τ : Type}

/-- Between two states a client received allowed datagrams only. -/
def OnlyReceives
    (allowed : ReceivedDatagram → Prop)
    (before after : BacnetClient τ) : Prop :=
  ∃ new, after.traffic = new ++ before.traffic ∧
    ∀ datagram, .received datagram ∈ new → allowed datagram

variable {allowed : ReceivedDatagram → Prop}

theorem OnlyReceives.of_traffic
    {before after : BacnetClient τ}
    (traffic : after.traffic = before.traffic) :
    OnlyReceives allowed before after :=
  ⟨[], traffic, fun _ isMember => absurd isMember List.not_mem_nil⟩

theorem OnlyReceives.trans
    {first second third : BacnetClient τ}
    (early : OnlyReceives allowed first second)
    (late : OnlyReceives allowed second third) :
    OnlyReceives allowed first third := by
  obtain ⟨earlyNew, earlyTraffic, earlyAllowed⟩ := early
  obtain ⟨lateNew, lateTraffic, lateAllowed⟩ := late
  refine ⟨lateNew ++ earlyNew, ?_, fun datagram isMember => ?_⟩
  · rw [lateTraffic, earlyTraffic, List.append_assoc]
  · rcases List.mem_append.mp isMember with isLate | isEarly
    · exact lateAllowed datagram isLate
    · exact earlyAllowed datagram isEarly

theorem OnlyReceives.imp
    {before after : BacnetClient τ}
    {weaker : ReceivedDatagram → Prop}
    (receives : OnlyReceives allowed before after)
    (implies : ∀ datagram, allowed datagram → weaker datagram) :
    OnlyReceives weaker before after := by
  obtain ⟨new, traffic, isAllowed⟩ := receives
  exact ⟨new, traffic, fun datagram isMember =>
    implies datagram (isAllowed datagram isMember)⟩

variable (runtime : ClientRuntime τ) (client : BacnetClient τ)

theorem onlyReceives_send
    (destination : BacnetIpEndpoint)
    (packet : List UInt8) :
    OnlyReceives allowed client
      (client.send runtime destination packet).2 := by
  refine ⟨[_], rfl, fun datagram isMember => ?_⟩
  exact nomatch List.mem_singleton.mp isMember

theorem onlyReceives_sendRequest
    (destination : BacnetIpEndpoint)
    (request : Option (List UInt8)) :
    OnlyReceives allowed client
      (client.sendRequest runtime destination request).2 := by
  unfold sendRequest
  split
  · exact .of_traffic rfl
  · split
    · exact client.onlyReceives_send runtime destination _
    · exact .of_traffic rfl

theorem onlyReceives_sendReadProperty
    (destination : BacnetIpEndpoint)
    (request : BacnetPropertyRequest)
    (invokeId : UInt8) :
    OnlyReceives allowed client
      (client.sendReadProperty runtime destination request invokeId).2 := by
  unfold sendReadProperty
  split
  · exact .of_traffic rfl
  · exact client.onlyReceives_sendRequest runtime destination _

theorem onlyReceives_acknowledgeCovNotification
    (notification : BacnetCovNotification) :
    OnlyReceives allowed client
      (client.acknowledgeCovNotification runtime notification).2 := by
  unfold acknowledgeCovNotification
  split
  · split
    · exact .of_traffic rfl
    · exact client.onlyReceives_send runtime _ _
  · exact .of_traffic rfl

/-- A request that was sent is the newest traffic. -/
theorem isSent_sendReadProperty
    {destination : BacnetIpEndpoint}
    (read : InFlightRead)
    {after : BacnetClient τ}
    (sends :
      client.sendReadProperty runtime destination read.request
        read.invokeId = (true, after)) :
    ∃ entry, read.IsSent destination entry ∧
      after.traffic = entry :: client.traffic := by
  unfold sendReadProperty at sends
  split at sends
  · exact nomatch sends
  · unfold sendRequest at sends
    split at sends
    · exact nomatch sends
    · rename_i packet built
      split at sends
      · obtain ⟨accepted, rfl⟩ := Prod.mk.inj sends
        exact ⟨.sent destination packet _, ⟨accepted, rfl, built⟩, rfl⟩
      · exact nomatch sends

/-- A poll that reports nothing received no response. -/
theorem onlyReceives_pollReadPropertyStatus
    (read : InFlightRead)
    (pending :
      (client.pollReadPropertyStatus runtime read.invokeId
        read.request).1.status = .none) :
    OnlyReceives (fun datagram => ¬read.IsAnsweredBy datagram) client
      (client.pollReadPropertyStatus runtime read.invokeId
        read.request).2 := by
  unfold pollReadPropertyStatus pollDatagram at pending ⊢
  split at pending
  · rename_i running
    rw [if_pos running]
    split at pending
    · rename_i received
      exact .of_traffic (receive_none received).1
    · rename_i datagram current received
      refine ⟨[.received datagram], (receive_some received).1,
        fun other isMember answered => ?_⟩
      obtain rfl :=
        ClientTraffic.received.inj (List.mem_singleton.mp isMember)
      exact answered pending
  · rename_i stopped
    rw [if_neg stopped]
    exact .of_traffic rfl

end BacnetClient

/-- The request of a read job. -/
def BacnetPropertyReadJob.inFlightRead
    (job : BacnetPropertyReadJob) : InFlightRead where
  invokeId := job.invokeId
  request := job.request

/-- The request of a scan, while one is in flight. -/
def BacnetObjectListScanJob.inFlightRead?
    (job : BacnetObjectListScanJob) : Option InFlightRead :=
  if job.requestInFlight then
    some { invokeId := job.inFlightInvokeId, request := job.inFlightRequest }
  else
    none

namespace BacnetDeviceSession

/-- The request a job of a session has in flight. -/
def inFlightRead?
    (session : BacnetDeviceSession)
    (reads : ReadId → BacnetPropertyReadJob)
    (scans : ScanId → BacnetObjectListScanJob) : Option InFlightRead :=
  match session.inFlightPropertyRead with
  | some read => some (reads read).inFlightRead
  | none =>
      session.inFlightObjectListScan.bind fun scan =>
        (scans scan).inFlightRead?

variable {session : BacnetDeviceSession}
  {reads : ReadId → BacnetPropertyReadJob}
  {scans : ScanId → BacnetObjectListScanJob}

/-- Only a scan itself changes what is in flight for it. -/
theorem mem_inFlightRead?_update
    {scan : ScanId}
    {job : BacnetObjectListScanJob}
    {read : InFlightRead}
    (isMember :
      read ∈ session.inFlightRead? reads (Function.update scans scan job)) :
    read ∈ job.inFlightRead? ∨ read ∈ session.inFlightRead? reads scans := by
  unfold inFlightRead? at isMember ⊢
  split at isMember
  · exact .inr isMember
  · obtain ⟨waiting, isWaiting, isInFlight⟩ :=
      Option.mem_bind_iff.mp isMember
    by_cases isSame : waiting = scan
    · rw [isSame, Function.update_self] at isInFlight
      exact .inl isInFlight
    · rw [Function.update_of_ne isSame] at isInFlight
      exact .inr (Option.mem_bind_iff.mpr ⟨waiting, isWaiting, isInFlight⟩)

/-- The slot of a scan is cleared or stays. -/
theorem mem_inFlightRead?_endScan
    {scan : ScanId}
    {read : InFlightRead}
    (isMember :
      read ∈ inFlightRead?
        { session with
          inFlightObjectListScan :=
            if session.inFlightObjectListScan = some scan then none
            else session.inFlightObjectListScan } reads scans) :
    read ∈ session.inFlightRead? reads scans := by
  unfold inFlightRead? at isMember ⊢
  dsimp only at isMember
  split at isMember
  · exact isMember
  · split at isMember
    · exact nomatch isMember
    · exact isMember

/-- The slot of a read job is cleared by that job only. -/
theorem inFlightRead?_endRead
    (exclusive : session.Exclusive)
    (read : ReadId)
    (job : BacnetPropertyReadJob) :
    inFlightRead?
        { session with
          inFlightPropertyRead :=
            if session.inFlightPropertyRead = some read then none
            else session.inFlightPropertyRead }
        (Function.update reads read job) scans =
      if session.inFlightPropertyRead = some read then none
      else session.inFlightRead? reads scans := by
  unfold inFlightRead?
  dsimp only
  by_cases waits : session.inFlightPropertyRead = some read
  · rw [if_pos waits, if_pos waits]
    cases isScan : session.inFlightObjectListScan with
    | none => rfl
    | some scan =>
        have noRead := exclusive.scan (by rw [isScan]; rfl)
        rw [waits] at noRead
        exact nomatch noRead
  · rw [if_neg waits, if_neg waits]
    cases isRead : session.inFlightPropertyRead with
    | none => rfl
    | some other =>
        have differs : other ≠ read := by
          rintro rfl
          exact waits isRead
        dsimp only
        rw [Function.update_of_ne differs]

/-- A session that is not busy waits for one thing at most. -/
theorem exclusive_of_not_busy
    (notBusy : session.isBusy = false) :
    session.Exclusive := by
  obtain ⟨noSubscription, noScan, -⟩ := slots_of_not_busy notBusy
  refine ⟨fun waits => ?_, fun waits => ?_⟩
  · rw [noSubscription] at waits
    exact nomatch waits
  · rw [noScan] at waits
    exact nomatch waits

/-- A session that is not busy has no request in flight. -/
theorem inFlightRead?_of_not_busy
    (notBusy : session.isBusy = false) :
    session.inFlightRead? reads scans = none := by
  obtain ⟨-, noScan, noRead⟩ := slots_of_not_busy notBusy
  rw [inFlightRead?, noRead, noScan]
  rfl

end BacnetDeviceSession

namespace ClientSystem

variable {τ : Type}

/-- The request a job of a session has in flight. -/
def inFlightRead?
    (system : ClientSystem τ)
    (id : SessionId) : Option InFlightRead :=
  (system.sessions id).inFlightRead? system.reads system.scans

/-- The request in flight has received no response since it was sent. -/
def Unanswered
    (system : ClientSystem τ)
    (id : SessionId) : Prop :=
  ∀ read ∈ system.inFlightRead? id,
    read.IsUnanswered (system.sessions id).endpoint system.client.traffic

theorem sessions_setSession_self
    (system : ClientSystem τ)
    (id : SessionId)
    (session : BacnetDeviceSession) :
    (system.setSession id session).sessions id = session :=
  Function.update_self ..

namespace KeepsJobs

variable {first second : ClientSystem τ}

theorem updatePropertyCache
    (keeps : first.KeepsJobs second)
    (id : SessionId)
    (request : BacnetPropertyRequest)
    (status : BacnetPropertyReadStatus)
    (value : Option BacnetValue)
    (attemptAtMs errorClass errorCode : UInt32) :
    first.KeepsJobs
      (second.setSession id
        ((second.sessions id).updatePropertyCache request status value
          attemptAtMs errorClass errorCode)) :=
  keeps.setSession ⟨rfl, rfl, rfl⟩

theorem inFlightRead?_eq
    (keeps : first.KeepsJobs second)
    (id : SessionId) :
    second.inFlightRead? id = first.inFlightRead? id := by
  unfold ClientSystem.inFlightRead? BacnetDeviceSession.inFlightRead?
  rw [(keeps.session id).read, (keeps.session id).scan, keeps.reads,
    keeps.scans]

end KeepsJobs

namespace Unanswered

variable {before after : ClientSystem τ} {id : SessionId}

/-- A session that waits for no job. -/
theorem of_none
    (idle : after.inFlightRead? id = none) :
    after.Unanswered id := by
  intro read isMember
  rw [idle] at isMember
  exact nomatch isMember

/-- What a session waits for was sent before, and nobody answered since. -/
theorem of_onlyReceives
    (unanswered : before.Unanswered id)
    (endpoint :
      (after.sessions id).endpoint = (before.sessions id).endpoint)
    (waited :
      ∀ read ∈ after.inFlightRead? id, read ∈ before.inFlightRead? id)
    (receives :
      BacnetClient.OnlyReceives
        (fun datagram =>
          ∀ read ∈ before.inFlightRead? id, ¬read.IsAnsweredBy datagram)
        before.client after.client) :
    after.Unanswered id := by
  intro read isMember
  obtain ⟨new, traffic, allowed⟩ := receives
  rw [endpoint, traffic]
  exact (unanswered read (waited read isMember)).append
    fun datagram isNew => allowed datagram isNew read (waited read isMember)

/-- Nothing about the jobs changes while nothing is received. -/
theorem of_keepsJobs
    (unanswered : before.Unanswered id)
    (keeps : before.KeepsJobs after)
    (receives :
      BacnetClient.OnlyReceives
        (fun datagram =>
          ∀ read ∈ before.inFlightRead? id, ¬read.IsAnsweredBy datagram)
        before.client after.client) :
    after.Unanswered id :=
  unanswered.of_onlyReceives (keeps.session id).endpoint
    (fun _ isMember => keeps.inFlightRead?_eq id ▸ isMember) receives

end Unanswered

section

variable {system : ClientSystem τ} {id : SessionId}

theorem Unanswered.setScan
    (unanswered : system.Unanswered id)
    {scan : ScanId}
    {job : BacnetObjectListScanJob}
    (fresh :
      ∀ read ∈ job.inFlightRead?,
        read.IsUnanswered (system.sessions id).endpoint
          system.client.traffic) :
    (system.setScan scan job).Unanswered id := by
  intro read isMember
  rcases BacnetDeviceSession.mem_inFlightRead?_update isMember with
    isFresh | isOld
  · exact fresh read isFresh
  · exact unanswered read isOld

/-- A scan between two of its reads has nothing in flight. -/
theorem Unanswered.setIdleScan
    (unanswered : system.Unanswered id)
    (scan : ScanId)
    (job : BacnetObjectListScanJob)
    (idle : job.requestInFlight = false) :
    (system.setScan scan job).Unanswered id := by
  refine unanswered.setScan fun read isMember => ?_
  rw [BacnetObjectListScanJob.inFlightRead?, idle] at isMember
  exact nomatch isMember

/-- The slot of a scan is cleared or stays. -/
theorem Unanswered.endScan
    (unanswered : system.Unanswered id)
    (scan : ScanId) :
    (system.setSession id
      { system.sessions id with
        inFlightObjectListScan :=
          if (system.sessions id).inFlightObjectListScan = some scan then
            none
          else
            (system.sessions id).inFlightObjectListScan
        }).Unanswered id := by
  intro read isMember
  rw [inFlightRead?, sessions_setSession_self] at isMember
  rw [sessions_setSession_self]
  exact unanswered read
    (BacnetDeviceSession.mem_inFlightRead?_endScan isMember)

/-! Scans, read jobs and blocking calls leave no response waiting. -/

theorem idle_absorbField
    {job : BacnetObjectListScanJob}
    (idle : job.requestInFlight = false)
    (field : Option ScanField)
    (status : BacnetDeviceSessionReadStatus)
    (value : Option BacnetValue) :
    (job.absorbField field status value).requestInFlight = false := by
  unfold BacnetObjectListScanJob.absorbField
  split
  · exact idle
  · split
    · exact idle
    · exact idle

/-- The end of a read leaves no request in flight. -/
theorem idle_absorbRead
    (job : BacnetObjectListScanJob)
    (status : BacnetDeviceSessionReadStatus)
    (value : Option BacnetValue) :
    (job.absorbRead status value).2.requestInFlight = false := by
  unfold BacnetObjectListScanJob.absorbRead
  dsimp only
  split
  · exact (BacnetObjectListScanJob.state_absorbCount _ _ _).2
  · split
    · exact (BacnetObjectListScanJob.state_absorbEntry _ _ _).2
    · exact idle_absorbField rfl _ _ _

variable (runtime : ClientRuntime τ)

theorem Unanswered.resolveNow
    (unanswered : system.Unanswered id)
    (nowMs : UInt32) :
    (system.resolveNow runtime nowMs).2.Unanswered id := by
  unfold ClientSystem.resolveNow
  split
  · exact unanswered.of_keepsJobs ((KeepsJobs.refl system).onClient _)
      (.of_traffic rfl)
  · exact unanswered

/-- A scan that has nothing in flight sends its next request. -/
theorem Unanswered.sendObjectListScanRead
    (unanswered : system.Unanswered id)
    {after : ClientSystem τ}
    {scan : ScanId}
    (idle : (system.scans scan).requestInFlight = false)
    {request : BacnetPropertyRequest}
    {phase : BacnetObjectListScanPhase}
    {nowMs : UInt32}
    {sent : Bool}
    (sends :
      system.sendObjectListScanRead runtime id scan request phase nowMs =
        (sent, after)) :
    after.Unanswered id ∧
      (sent = false → (after.scans scan).requestInFlight = false) := by
  unfold ClientSystem.sendObjectListScanRead at sends
  dsimp only at sends
  have allocated : (system.allocateInvokeId id).2.Unanswered id :=
    unanswered.of_keepsJobs
      ((ExchangeStep.refl system).allocateInvokeId id).keeps (.of_traffic rfl)
  have stillIdle :
      ((system.allocateInvokeId id).2.scans scan).requestInFlight = false :=
    idle
  generalize system.allocateInvokeId id = allocation
    at allocated stillIdle sends
  obtain ⟨invokeId, current⟩ := allocation
  dsimp only at allocated stillIdle sends
  have asked := (allocated.setIdleScan scan
      { current.scans scan with
        phase := phase
        inFlightRequest := request } stillIdle).of_keepsJobs
    ((KeepsJobs.refl _).onClient fun client =>
      client.sendReadProperty runtime (current.sessions id).endpoint
        request invokeId)
    (BacnetClient.onlyReceives_sendReadProperty runtime _ _ _ _)
  split at sends
  · rename_i accepted
    obtain ⟨rfl, rfl⟩ := Prod.mk.inj sends
    refine ⟨asked.setScan fun read isMember => ?_, nofun⟩
    obtain rfl := Option.some.inj isMember
    obtain ⟨entry, isSent, traffic⟩ :=
      BacnetClient.isSent_sendReadProperty runtime current.client
        { invokeId := invokeId, request := request }
        (Prod.ext accepted rfl)
    change InFlightRead.IsUnanswered _ _
      (current.client.sendReadProperty runtime _ request invokeId).2.traffic
    rw [traffic]
    exact InFlightRead.isUnanswered_of_sent isSent _
  · obtain ⟨-, rfl⟩ := Prod.mk.inj sends
    refine ⟨asked.of_keepsJobs
      ((KeepsJobs.refl _).updatePropertyCache _ _ _ _ _ _ _)
      (.of_traffic rfl), fun _ => ?_⟩
    show (Function.update current.scans scan _ scan).requestInFlight = false
    rw [Function.update_self]
    exact stillIdle

theorem Unanswered.endObjectListScan
    (unanswered : system.Unanswered id)
    (scan : ScanId)
    (status : BacnetObjectListScanJobStatus)
    (phase : BacnetObjectListScanPhase) :
    (system.endObjectListScan id scan status phase).Unanswered id :=
  (unanswered.endScan scan).setIdleScan scan _ rfl

theorem Unanswered.startEntryRead
    (unanswered : system.Unanswered id)
    {scan : ScanId}
    (idle : (system.scans scan).requestInFlight = false)
    (nowMs : UInt32) :
    (system.startEntryRead runtime id scan nowMs).Unanswered id := by
  unfold ClientSystem.startEntryRead
  dsimp only
  split
  · exact unanswered.endObjectListScan _ _ _
  · split
    · rename_i sends
      exact (unanswered.sendObjectListScanRead runtime idle sends).1
    · rename_i sends
      have sent := unanswered.sendObjectListScanRead runtime idle sends
      exact (sent.1.setIdleScan scan _
        (BacnetObjectListScanJob.state_absorbEntry _ _ _).2
        ).endObjectListScan _ _ _

theorem Unanswered.startFieldReads
    {scan : ScanId}
    (scanned : BacnetScannedObject)
    (nowMs : UInt32)
    (fields : List ScanField)
    {system : ClientSystem τ}
    (unanswered : system.Unanswered id)
    (idle : (system.scans scan).requestInFlight = false) :
    (ClientSystem.startFieldReads runtime id scan scanned nowMs fields
      system).Unanswered id := by
  induction fields generalizing system with
  | nil =>
      have skipped := unanswered.setIdleScan scan
        { (system.scans scan).skipEntry with hasCurrentStoreIndex := false }
        idle
      apply skipped.startEntryRead runtime
      rw [scans_setScan_self]
      exact idle
  | cons field rest inductionHypothesis =>
      unfold ClientSystem.startFieldReads
      split
      · split
        · rename_i sends
          exact (unanswered.sendObjectListScanRead runtime idle sends).1
        · rename_i sends
          have sent := unanswered.sendObjectListScanRead runtime idle sends
          apply inductionHypothesis
          · exact sent.1.setIdleScan scan _ (idle_absorbField rfl _ _ _)
          · rw [scans_setScan_self]
            exact idle_absorbField rfl _ _ _
      · exact inductionHypothesis unanswered idle

theorem Unanswered.advanceObjectListScan
    (unanswered : system.Unanswered id)
    (scan : ScanId)
    (nowMs : UInt32) :
    (system.advanceObjectListScan runtime id scan nowMs).Unanswered id := by
  unfold ClientSystem.advanceObjectListScan
  dsimp only
  split
  · exact unanswered
  · rename_i mayAdvance
    have idle : (system.scans scan).requestInFlight = false :=
      (Bool.or_eq_false_iff.mp (Bool.eq_false_iff.mpr mayAdvance)).2
    split
    · exact Unanswered.startFieldReads runtime _ _ _ unanswered idle
    · exact unanswered.startEntryRead runtime idle _

/-- The end of a read, once the scan has nothing in flight any more. -/
theorem unanswered_finishObjectListScanRead
    (scan : ScanId)
    (settled :
      ∀ job : BacnetObjectListScanJob, job.requestInFlight = false →
        (system.setScan scan job).Unanswered id)
    (status : BacnetDeviceSessionReadStatus)
    (value : Option BacnetValue)
    (nowMs : UInt32) :
    (system.finishObjectListScanRead runtime id scan status value
      nowMs).Unanswered id := by
  have absorbed := settled _
    (idle_absorbRead (system.scans scan) status value)
  unfold ClientSystem.finishObjectListScanRead
  split
  all_goals
    rename_i job shape
    rw [shape] at absorbed
  · exact absorbed.advanceObjectListScan runtime _ _
  · exact absorbed.endObjectListScan _ _ _
  · exact absorbed.endObjectListScan _ _ _

/-- A session that waits for a scan between two reads. -/
theorem unanswered_setIdleScan
    (noRead : (system.sessions id).inFlightPropertyRead = none)
    {scan : ScanId}
    (waits : (system.sessions id).inFlightObjectListScan = some scan)
    {job : BacnetObjectListScanJob}
    (idle : job.requestInFlight = false) :
    (system.setScan scan job).Unanswered id := by
  refine .of_none ?_
  show (system.sessions id).inFlightRead? system.reads
    (Function.update system.scans scan job) = none
  rw [BacnetDeviceSession.inFlightRead?, noRead, waits]
  dsimp only
  rw [Option.bind_some, Function.update_self,
    BacnetObjectListScanJob.inFlightRead?, idle]
  rfl

theorem Unanswered.pollInFlightObjectListScan
    (unanswered : system.Unanswered id)
    (exclusive : (system.sessions id).Exclusive)
    (nowMs : UInt32) :
    (system.pollInFlightObjectListScan runtime id nowMs).Unanswered id := by
  unfold ClientSystem.pollInFlightObjectListScan
  split
  · exact unanswered
  · rename_i scan waits
    have noRead : (system.sessions id).inFlightPropertyRead = none := by
      apply exclusive.scan
      rw [waits]
      rfl
    dsimp only
    split
    · exact unanswered
    · rename_i mayPoll
      have inFlight : (system.scans scan).requestInFlight = true :=
        Bool.not_eq_eq_eq_not.mp
          (Bool.or_eq_false_iff.mp (Bool.eq_false_iff.mpr mayPoll)).2
      -- Whatever was received, an idle scan has nothing in flight.
      have settled {current : ClientSystem τ}
          (kept : system.KeepsJobs current) :
          ∀ job : BacnetObjectListScanJob, job.requestInFlight = false →
            (current.setScan scan job).Unanswered id :=
        fun job idle => unanswered_setIdleScan
          ((kept.session id).read.trans noRead)
          ((kept.session id).scan.trans waits) idle
      have kept := (KeepsJobs.refl system).onClient fun client =>
        client.pollReadPropertyStatus runtime
          (system.scans scan).inFlightInvokeId
          (system.scans scan).inFlightRequest
      split
      · exact unanswered_finishObjectListScanRead runtime scan
          (settled (kept.updatePropertyCache _ _ _ _ _ _ _)) _ _ _
      · rename_i pending
        split
        · exact unanswered_finishObjectListScanRead runtime scan
            (settled (kept.updatePropertyCache _ _ _ _ _ _ _)) _ _ _
        · refine unanswered.of_keepsJobs kept ?_
          have waited : system.inFlightRead? id =
              some { invokeId := (system.scans scan).inFlightInvokeId
                     request := (system.scans scan).inFlightRequest } := by
            rw [inFlightRead?, BacnetDeviceSession.inFlightRead?, noRead,
              waits]
            dsimp only
            rw [Option.bind_some, BacnetObjectListScanJob.inFlightRead?,
              if_pos inFlight]
          rw [waited]
          refine (BacnetClient.onlyReceives_pollReadPropertyStatus runtime
            system.client
            { invokeId := (system.scans scan).inFlightInvokeId
              request := (system.scans scan).inFlightRequest }
            (not_not.mp pending)).imp ?_
          rintro datagram isOther read ⟨⟩
          exact isOther

theorem Unanswered.beginObjectListScan
    (unanswered : system.Unanswered id)
    (scan : ScanId)
    (options : BacnetObjectScanOptions)
    (hasResults : Bool)
    (resultCapacity : Nat)
    (nowMs : UInt32) :
    (system.beginObjectListScan runtime id scan options hasResults
      resultCapacity nowMs).2.Unanswered id := by
  have resolved := unanswered.resolveNow runtime nowMs
  unfold ClientSystem.beginObjectListScan
  generalize system.resolveNow runtime nowMs = now at resolved ⊢
  obtain ⟨now, current⟩ := now
  dsimp only at resolved ⊢
  split
  · exact resolved
  · rename_i mayBegin
    obtain ⟨-, -, noRead⟩ := BacnetDeviceSession.slots_of_not_busy
      (Bool.or_eq_false_iff.mp (Bool.eq_false_iff.mpr mayBegin)).1
    have begun :
        ((current.setScan scan
          (newScanJob id options hasResults resultCapacity)).setSession id
            { current.sessions id with
              inFlightObjectListScan := some scan }).Unanswered id := by
      show ((current.setSession id
        { current.sessions id with
          inFlightObjectListScan := some scan }).setScan scan
            (newScanJob id options hasResults resultCapacity)).Unanswered id
      apply unanswered_setIdleScan
      · rw [sessions_setSession_self]
        exact noRead
      · rw [sessions_setSession_self]
      · rfl
    have idle :
        (((current.setScan scan
          (newScanJob id options hasResults resultCapacity)).setSession id
            { current.sessions id with
              inFlightObjectListScan := some scan }).scans
                scan).requestInFlight = false := by
      rw [scans_setSession, scans_setScan_self]
      rfl
    split
    · rename_i sends
      exact (begun.sendObjectListScanRead runtime idle sends).1
    · rename_i sends
      have sent := (begun.sendObjectListScanRead runtime idle sends).1
      exact unanswered_finishObjectListScanRead runtime scan
        (sent.setIdleScan scan) _ _ _

/-- A scan leaves the rule alone that a session waits for one thing. -/
theorem Unanswered.pollObjectListScan
    (unanswered : system.Unanswered id)
    (exclusive : (system.sessions id).Exclusive)
    (scan : ScanId)
    (nowMs : UInt32) :
    (system.pollObjectListScan runtime id scan nowMs).Unanswered id := by
  have resolved := unanswered.resolveNow runtime nowMs
  have stillExclusive :=
    (((QuietStep.refl system).resolveNow runtime nowMs).session
      id).exclusive exclusive
  unfold ClientSystem.pollObjectListScan
  dsimp only
  split
  · have polled := resolved.pollInFlightObjectListScan runtime
      stillExclusive (system.resolveNow runtime nowMs).1
    split
    · exact polled.advanceObjectListScan runtime _ _
    · exact polled
  · exact resolved

theorem Unanswered.cancelObjectListScan
    (unanswered : system.Unanswered id)
    (scan : ScanId) :
    (system.cancelObjectListScan id scan).Unanswered id := by
  unfold ClientSystem.cancelObjectListScan
  split
  · exact unanswered.endObjectListScan _ _ _
  · exact unanswered

theorem Unanswered.scanRounds
    (scan : ScanId)
    (rounds : Nat)
    {system : ClientSystem τ}
    (unanswered : system.Unanswered id)
    (exclusive : (system.sessions id).Exclusive) :
    (ClientSystem.scanRounds runtime id scan rounds
      system).Unanswered id := by
  induction rounds generalizing system with
  | zero => exact unanswered
  | succ rounds inductionHypothesis =>
      unfold ClientSystem.scanRounds
      split
      · have polled := unanswered.pollObjectListScan runtime exclusive scan
          kUseClientClock
        have quiet := (QuietStep.refl system).pollObjectListScan runtime id
          scan kUseClientClock
        exact inductionHypothesis polled
          ((quiet.session id).exclusive exclusive)
      · exact unanswered

theorem Unanswered.scanObjectList
    (unanswered : system.Unanswered id)
    (exclusive : (system.sessions id).Exclusive)
    (scan : ScanId)
    (options : BacnetObjectScanOptions)
    (hasResults : Bool)
    (resultCapacity rounds : Nat) :
    (system.scanObjectList runtime id scan options hasResults
      resultCapacity rounds).Unanswered id := by
  have begun := unanswered.beginObjectListScan runtime scan options hasResults
    resultCapacity kUseClientClock
  have quiet := (QuietStep.refl system).beginObjectListScan runtime id scan
    options hasResults resultCapacity kUseClientClock
  unfold ClientSystem.scanObjectList
  split
  all_goals
    rename_i shape
    rw [shape] at begun quiet
  · exact Unanswered.scanRounds runtime _ _ begun
      ((quiet.session id).exclusive exclusive)
  · exact begun

/-- A read job that ends is no longer in flight. -/
theorem inFlightRead?_finishPropertyRead
    (exclusive : (system.sessions id).Exclusive)
    {read : ReadId}
    (waits : (system.sessions id).inFlightPropertyRead = some read)
    (status : BacnetPropertyReadStatus)
    (value : Option BacnetValue)
    (nowMs errorClass errorCode : UInt32) :
    (system.finishPropertyRead id read status value nowMs errorClass
      errorCode).inFlightRead? id = none := by
  unfold finishPropertyRead releasePropertyRead
  dsimp only
  show BacnetDeviceSession.inFlightRead?
    ((setSession (setSession system id _) id _).sessions id)
    (Function.update (Function.update system.reads read _) read _)
    system.scans = none
  rw [sessions_setSession_self, sessions_setSession_self,
    Function.update_idem]
  have cached : (system.sessions id).QuietStep
      ((system.sessions id).updatePropertyCache (system.reads read).request
        status value nowMs errorClass errorCode) :=
    BacnetDeviceSession.quiet_updatePropertyCache _ _ _ _ _ _
  rw [BacnetDeviceSession.inFlightRead?_endRead (cached.exclusive exclusive)]
  exact if_pos waits

theorem Unanswered.cancelPropertyRead
    (unanswered : system.Unanswered id)
    (exclusive : (system.sessions id).Exclusive)
    (read : ReadId) :
    (system.cancelPropertyRead id read).Unanswered id := by
  unfold ClientSystem.cancelPropertyRead
  split
  · unfold ClientSystem.releasePropertyRead
    dsimp only
    intro waiting isMember
    change waiting ∈ BacnetDeviceSession.inFlightRead?
      ((setSession system id _).sessions id)
      (Function.update (Function.update system.reads read _) read _)
      system.scans at isMember
    rw [sessions_setSession_self, Function.update_idem,
      BacnetDeviceSession.inFlightRead?_endRead exclusive] at isMember
    show waiting.IsUnanswered
      ((setSession system id _).sessions id).endpoint system.client.traffic
    rw [sessions_setSession_self]
    split at isMember
    · exact nomatch isMember
    · exact unanswered waiting isMember
  · exact unanswered

theorem Unanswered.pollInFlightPropertyRead
    (unanswered : system.Unanswered id)
    (exclusive : (system.sessions id).Exclusive)
    (nowMs : UInt32) :
    (system.pollInFlightPropertyRead runtime id nowMs).Unanswered id := by
  unfold ClientSystem.pollInFlightPropertyRead
  split
  · exact unanswered
  · rename_i read waits
    have kept := (KeepsJobs.refl system).onClient fun client =>
      client.pollReadPropertyStatus runtime (system.reads read).invokeId
        (system.reads read).request
    dsimp only
    split
    · exact .of_none (inFlightRead?_finishPropertyRead exclusive waits ..)
    · rename_i pending
      split
      · exact .of_none (inFlightRead?_finishPropertyRead exclusive waits ..)
      · refine unanswered.of_keepsJobs kept ?_
        have waited : system.inFlightRead? id =
            some (system.reads read).inFlightRead := by
          rw [inFlightRead?, BacnetDeviceSession.inFlightRead?, waits]
        rw [waited]
        refine (BacnetClient.onlyReceives_pollReadPropertyStatus runtime
          system.client (system.reads read).inFlightRead
          (not_not.mp pending)).imp ?_
        rintro datagram isOther waiting ⟨⟩
        exact isOther

theorem Unanswered.pollPropertyRead
    (unanswered : system.Unanswered id)
    (exclusive : (system.sessions id).Exclusive)
    (read : ReadId)
    (nowMs : UInt32) :
    (system.pollPropertyRead runtime id read nowMs).Unanswered id := by
  have resolved := unanswered.resolveNow runtime nowMs
  have stillExclusive :=
    (((QuietStep.refl system).resolveNow runtime nowMs).session
      id).exclusive exclusive
  unfold ClientSystem.pollPropertyRead
  dsimp only
  split
  · exact resolved.pollInFlightPropertyRead runtime stillExclusive _
  · exact resolved

theorem Unanswered.beginPropertyRead
    (unanswered : system.Unanswered id)
    (read : ReadId)
    (request : BacnetPropertyRequest)
    (timeoutMs nowMs : UInt32) :
    (system.beginPropertyRead runtime id read request timeoutMs
      nowMs).2.Unanswered id := by
  have resolved := unanswered.resolveNow runtime nowMs
  unfold ClientSystem.beginPropertyRead
  generalize system.resolveNow runtime nowMs = now at resolved ⊢
  obtain ⟨now, current⟩ := now
  dsimp only at resolved ⊢
  split
  · exact resolved
  · rename_i mayBegin
    have notBusy :=
      (Bool.or_eq_false_iff.mp (Bool.eq_false_iff.mpr mayBegin)).1
    have begins :
        (((current.setRead read
          { session := some id
            status := .active
            request := request
            timeoutMs := timeoutMs }).setSession id
              { current.sessions id with
                inFlightPropertyRead := some read }).allocateInvokeId
                  id).2.sessions id =
          (BacnetDeviceSession.allocateInvokeId
            { current.sessions id with
              inFlightPropertyRead := some read }).2 := by
      unfold ClientSystem.allocateInvokeId
      dsimp only
      rw [sessions_setSession_self, sessions_setSession_self]
    generalize ClientSystem.allocateInvokeId _ id = begun at begins ⊢
    obtain ⟨invokeId, begun⟩ := begun
    dsimp only at begins ⊢
    split
    · rename_i accepted
      obtain ⟨entry, isSent, traffic⟩ :=
        BacnetClient.isSent_sendReadProperty runtime begun.client
          { invokeId := invokeId, request := request }
          (Prod.ext accepted rfl)
      intro waiting isMember
      change waiting ∈ (begun.sessions id).inFlightRead?
        (Function.update begun.reads read _) begun.scans at isMember
      rw [begins] at isMember
      obtain rfl := Option.some.inj isMember
      change InFlightRead.IsUnanswered _ (begun.sessions id).endpoint
        (begun.client.sendReadProperty runtime _ request invokeId).2.traffic
      rw [traffic, Function.update_self]
      exact InFlightRead.isUnanswered_of_sent isSent _
    · refine .of_none (inFlightRead?_finishPropertyRead ?_ ?_ ..)
      · show (begun.sessions id).Exclusive
        rw [begins]
        exact BacnetDeviceSession.quiet_allocateInvokeId.exclusive
          ((BacnetDeviceSession.quiet_beginRead notBusy read).exclusive
            (BacnetDeviceSession.exclusive_of_not_busy notBusy))
      · show (begun.sessions id).inFlightPropertyRead = some read
        rw [begins]
        rfl

theorem onlyReceives_sendSubscription
    (system : ClientSystem τ)
    (endpoint : BacnetIpEndpoint)
    (subscription : BacnetPropertySubscription)
    (invokeId : UInt8) :
    BacnetClient.OnlyReceives (fun _ => False) system.client
      (system.sendSubscription runtime endpoint subscription
        invokeId).2.client := by
  unfold sendSubscription onClient
  dsimp only
  split
  · exact BacnetClient.onlyReceives_sendRequest runtime _ _ _
  · exact BacnetClient.onlyReceives_sendRequest runtime _ _ _

/-- A session that waits for a handle waits for no job. -/
theorem unanswered_of_subscription
    {after : ClientSystem τ}
    (exclusive : (system.sessions id).Exclusive)
    (waits : (system.sessions id).inFlightSubscription.isSome = true)
    (keeps : system.KeepsJobs after) :
    after.Unanswered id := by
  obtain ⟨noRead, noScan⟩ :=
    BacnetDeviceSession.jobInFlight_eq_false_iff.mp
      (exclusive.subscription waits)
  apply Unanswered.of_none
  rw [keeps.inFlightRead?_eq id, inFlightRead?,
    BacnetDeviceSession.inFlightRead?, noRead, noScan]
  rfl

/-- A blocking call is refused while a job of its session is in flight. -/
theorem Unanswered.of_blocking
    {after : ClientSystem τ}
    (unanswered : system.Unanswered id)
    (exchange : system.ExchangeStep after)
    (busy :
      (system.sessions id).isBusy = true →
        after.client.traffic = system.client.traffic) :
    after.Unanswered id := by
  cases isBusy : (system.sessions id).isBusy with
  | true =>
      exact unanswered.of_keepsJobs exchange.keeps
        (.of_traffic (busy isBusy))
  | false =>
      apply Unanswered.of_none
      rw [exchange.keeps.inFlightRead?_eq id]
      exact BacnetDeviceSession.inFlightRead?_of_not_busy isBusy

theorem Unanswered.readPropertyDetailed
    (unanswered : system.Unanswered id)
    (request : BacnetPropertyRequest)
    (timeoutMs : UInt32)
    (rounds : Nat) :
    (system.readPropertyDetailed runtime id request timeoutMs
      rounds).2.Unanswered id := by
  apply unanswered.of_blocking
    ((ExchangeStep.refl system).readPropertyDetailed runtime _ _ _ _)
  intro isBusy
  rw [ClientSystem.readPropertyDetailed, if_pos isBusy]
  rfl

theorem Unanswered.readPriorityArray
    (unanswered : system.Unanswered id)
    (object : BacnetObjectId)
    (timeoutMs : UInt32)
    (rounds : Nat) :
    (system.readPriorityArray runtime id object timeoutMs
      rounds).2.Unanswered id := by
  apply unanswered.of_blocking
    ((ExchangeStep.refl system).readPriorityArray runtime _ _ _ _)
  intro isBusy
  rw [ClientSystem.readPriorityArray]
  dsimp only
  rw [if_pos isBusy]

theorem Unanswered.writeProperty
    (unanswered : system.Unanswered id)
    (request : BacnetPropertyRequest)
    (value : BacnetValue)
    (timeoutMs : UInt32)
    (rounds : Nat) :
    (system.writeProperty runtime id request value timeoutMs
      rounds).2.Unanswered id := by
  apply unanswered.of_blocking
    ((ExchangeStep.refl system).writeProperty runtime _ _ _ _ _)
  intro isBusy
  rw [ClientSystem.writeProperty, if_pos isBusy]

theorem Unanswered.writePropertyWithOptions
    (unanswered : system.Unanswered id)
    (object : BacnetObjectId)
    (property : BacnetPropertyId)
    (value : BacnetValue)
    (options : BacnetWritePropertyOptions)
    (timeoutMs : UInt32)
    (rounds : Nat) :
    (system.writePropertyWithOptions runtime id object property value options
      timeoutMs rounds).2.Unanswered id := by
  apply unanswered.of_blocking
    ((ExchangeStep.refl system).writePropertyWithOptions runtime _ _ _ _ _ _ _)
  intro isBusy
  rw [ClientSystem.writePropertyWithOptions, if_pos isBusy]

end

end ClientSystem

end BacnetStack
