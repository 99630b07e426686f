import BacnetStack.ClientCacheRuns
import BacnetStack.ClientRead
import BacnetStack.ProgramAgreement

namespace BacnetStack

open ProgramAgreement

/-!
# The status of a remote object

Five properties are read one after the other and summarised in one state.
A session takes the outcome of each read from the read itself; a process
object reads and then asks the cache how it went.  The cache was told of the
read a moment ago, so it cannot have evicted it.
-/

inductive BacnetObjectHealthState where
  | unknown
  | normal
  | warning
  | error
  | outOfService
  deriving Repr, DecidableEq, Inhabited

structure BacnetStatusFlags where
  inAlarm : Bool := false
  fault : Bool := false
  overridden : Bool := false
  outOfService : Bool := false
  deriving Repr, DecidableEq, Inhabited

structure BacnetObjectStatus where
  objectId : BacnetObjectId := {}
  presentValueStatus : BacnetPropertyReadStatus := .skipped
  presentValue : BacnetValue := {}
  statusFlagsStatus : BacnetPropertyReadStatus := .skipped
  statusFlags : BacnetStatusFlags := {}
  eventStateStatus : BacnetPropertyReadStatus := .skipped
  eventState : UInt32 := 0
  reliabilityStatus : BacnetPropertyReadStatus := .skipped
  reliability : UInt32 := 0
  outOfServiceStatus : BacnetPropertyReadStatus := .skipped
  outOfService : Bool := false
  state : BacnetObjectHealthState := .unknown
  deriving Repr, DecidableEq, Inhabited

/-- No result stands for a value that is not decoded. -/
def bacnetDecodeStatusFlags (value : BacnetValue) : Option BacnetStatusFlags :=
  if value.type ≠ .bitString ∨ value.bitStringBitCount < 4 then
    none
  else
    some {
      inAlarm := value.bitStringValue &&& ((1 : UInt32) <<< 0) != 0
      fault := value.bitStringValue &&& ((1 : UInt32) <<< 1) != 0
      overridden := value.bitStringValue &&& ((1 : UInt32) <<< 2) != 0
      outOfService := value.bitStringValue &&& ((1 : UInt32) <<< 3) != 0
    }

def enumValueFromBacnetValue (value : BacnetValue) : Option UInt32 :=
  if value.type ≠ .enumerated ∧ value.type ≠ .unsigned then
    none
  else
    some value.unsignedValue

def enumValueFromCachedProcessValue (value : BacnetValue) : Option UInt32 :=
  if value.type = .enumerated ∨ value.type = .unsigned then
    some value.unsignedValue
  else
    none

def booleanValueFromBacnetValue (value : BacnetValue) : Option Bool :=
  if value.type ≠ .boolean then none else some value.booleanValue

def booleanValueFromCachedProcessValue (value : BacnetValue) : Option Bool :=
  if value.type = .boolean then some value.booleanValue else none

theorem enumValueFromCachedProcessValue_eq (value : BacnetValue) :
    enumValueFromCachedProcessValue value = enumValueFromBacnetValue value := by
  unfold enumValueFromCachedProcessValue enumValueFromBacnetValue
  by_cases accepted : value.type = .enumerated ∨ value.type = .unsigned
  · rw [if_pos accepted, if_neg (fun neither => accepted.elim neither.1
      neither.2)]
  · rw [if_neg accepted, if_pos (not_or.mp accepted)]

theorem booleanValueFromCachedProcessValue_eq (value : BacnetValue) :
    booleanValueFromCachedProcessValue value =
      booleanValueFromBacnetValue value :=
  (ite_not ..).symm

/--
`if (status == Ack && !decode(value, field)) status = DecodeError`, with what
the field held before where nothing is decoded.
-/
def decodeField {α : Type}
    (status : BacnetPropertyReadStatus)
    (decoded : Option α)
    (held : α) : BacnetPropertyReadStatus × α :=
  if status = .ack then
    match decoded with
    | some field => (.ack, field)
    | none => (.decodeError, held)
  else
    (status, held)

def bacnetDeriveObjectHealthState
    (status : BacnetObjectStatus)
    (presentValueRequired : Bool) : BacnetObjectHealthState :=
  if (status.outOfServiceStatus = .ack ∧ status.outOfService) ∨
      (status.statusFlagsStatus = .ack ∧ status.statusFlags.outOfService) then
    .outOfService
  else if (presentValueRequired ∧ status.presentValueStatus ≠ .ack) ∨
      (status.statusFlagsStatus = .ack ∧ status.statusFlags.fault) ∨
      (status.reliabilityStatus = .ack ∧ status.reliability ≠ 0) ∨
      (status.eventStateStatus = .ack ∧ status.eventState = 1) then
    .error
  else if (status.statusFlagsStatus = .ack ∧ status.statusFlags.inAlarm) ∨
      (status.eventStateStatus = .ack ∧
        (status.eventState = 2 ∨ status.eventState = 3 ∨
          status.eventState = 4)) then
    .warning
  else if status.statusFlagsStatus = .ack ∨ status.eventStateStatus = .ack ∨
      status.reliabilityStatus = .ack ∨ status.outOfServiceStatus = .ack then
    .normal
  else
    .unknown

/-- A blocking call; no result means that it still waits. -/
abbrev BlockingCall (τ α : Type) : Type :=
  Program (ClientSystem τ) α

/-- One property of a remote object. -/
structure BacnetProperty where
  session : SessionId
  objectId : BacnetObjectId
  propertyId : BacnetPropertyId
  arrayIndex : UInt32 := kBacnetNoArrayIndex
  deriving Repr, DecidableEq

/-- An object with a present value, at the session of its device. -/
structure BacnetProcessObject where
  session : SessionId
  objectId : BacnetObjectId
  deriving Repr, DecidableEq

/-- A property of the object as a whole. -/
def BacnetProcessObject.property
    (object : BacnetProcessObject)
    (propertyId : BacnetPropertyId) : BacnetProperty where
  session := object.session
  objectId := object.objectId
  propertyId := propertyId

section Reads

variable {τ : Type}
  (runtime : ClientRuntime τ)
  (timeoutMs : UInt32)
  (rounds : Nat)

/-- `readPropertyDetailed` of a session: the status, and the value. -/
def readPropertyStatusAndValue
    (id : SessionId)
    (request : BacnetPropertyRequest) :
    BlockingCall τ (BacnetPropertyReadStatus × BacnetValue) := do
  let result ←
    OptionT.mk fun system : ClientSystem τ =>
      system.readPropertyDetailed runtime id request timeoutMs rounds
  return (result.status, result.value)

namespace BacnetProperty

variable (property : BacnetProperty)

def request : BacnetPropertyRequest where
  object := property.objectId
  property := property.propertyId
  arrayIndex := property.arrayIndex

/-- `read`: the status of the session's `readProperty`, and the value. -/
def read : BlockingCall τ (BacnetDeviceSessionReadStatus × BacnetValue) := do
  let (status, value) ←
    readPropertyStatusAndValue runtime timeoutMs rounds property.session
      property.request
  return (deviceReadStatusFromPropertyStatus status, value)

/-- `lastStatus`, which reads the cache. -/
def lastStatus : BlockingCall τ BacnetPropertyReadStatus := do
  let system ← get
  match (system.sessions property.session).propertyCache.find?
      property.request with
  | none => return .skipped
  | some cached => return cached.status

/-- A read, the status of which is taken from the cache. -/
def readThenLastStatus :
    BlockingCall τ (BacnetPropertyReadStatus × BacnetValue) := do
  let (_, value) ← property.read runtime timeoutMs rounds
  let status ← property.lastStatus
  return (status, value)

end BacnetProperty

/-- `readStatus` of a process object. -/
def BacnetProcessObject.readStatus
    (object : BacnetProcessObject)
    (presentValueRequired : Bool) : BlockingCall τ BacnetObjectStatus := do
  let (presentValueStatus, presentValue) ←
    (object.property .presentValue).readThenLastStatus runtime timeoutMs
      rounds
  let (statusFlagsStatus, statusFlagsValue) ←
    (object.property .statusFlags).readThenLastStatus runtime timeoutMs rounds
  let (statusFlagsStatus, statusFlags) :=
    decodeField statusFlagsStatus
      (bacnetDecodeStatusFlags statusFlagsValue) {}
  let (eventStateStatus, eventStateValue) ←
    (object.property .eventState).readThenLastStatus runtime timeoutMs rounds
  let (eventStateStatus, eventState) :=
    decodeField eventStateStatus
      (enumValueFromCachedProcessValue eventStateValue) 0
  let (reliabilityStatus, reliabilityValue) ←
    (object.property .reliability).readThenLastStatus runtime timeoutMs rounds
  let (reliabilityStatus, reliability) :=
    decodeField reliabilityStatus
      (enumValueFromCachedProcessValue reliabilityValue) 0
  let (outOfServiceStatus, outOfServiceValue) ←
    (object.property .outOfService).readThenLastStatus runtime timeoutMs
      rounds
  let (outOfServiceStatus, outOfService) :=
    decodeField outOfServiceStatus
      (booleanValueFromCachedProcessValue outOfServiceValue) false
  let status : BacnetObjectStatus := {
    objectId := object.objectId
    presentValueStatus, presentValue
    statusFlagsStatus, statusFlags
    eventStateStatus, eventState
    reliabilityStatus, reliability
    outOfServiceStatus, outOfService
  }
  return { status with
    state := bacnetDeriveObjectHealthState status presentValueRequired }

/-- `readObjectStatus` of a session: the derived state, and the status. -/
def readObjectStatus
    (id : SessionId)
    (objectId : BacnetObjectId)
    (presentValueRequired : Bool) :
    BlockingCall τ (BacnetObjectHealthState × BacnetObjectStatus) := do
  let readPropertyDetailed (property : BacnetPropertyId) :=
    readPropertyStatusAndValue runtime timeoutMs rounds id
      ⟨objectId, property, kBacnetNoArrayIndex⟩
  let (presentValueStatus, presentValue) ← readPropertyDetailed .presentValue
  let (statusFlagsStatus, statusFlagsValue) ←
    readPropertyDetailed .statusFlags
  let (statusFlagsStatus, statusFlags) :=
    decodeField statusFlagsStatus
      (bacnetDecodeStatusFlags statusFlagsValue) {}
  let (eventStateStatus, eventStateValue) ← readPropertyDetailed .eventState
  let (eventStateStatus, eventState) :=
    decodeField eventStateStatus
      (enumValueFromBacnetValue eventStateValue) 0
  let (reliabilityStatus, reliabilityValue) ←
    readPropertyDetailed .reliability
  let (reliabilityStatus, reliability) :=
    decodeField reliabilityStatus
      (enumValueFromBacnetValue reliabilityValue) 0
  let (outOfServiceStatus, outOfServiceValue) ←
    readPropertyDetailed .outOfService
  let (outOfServiceStatus, outOfService) :=
    decodeField outOfServiceStatus
      (booleanValueFromBacnetValue outOfServiceValue) false
  let status : BacnetObjectStatus := {
    objectId
    presentValueStatus, presentValue
    statusFlagsStatus, statusFlags
    eventStateStatus, eventState
    reliabilityStatus, reliability
    outOfServiceStatus, outOfService
  }
  let state := bacnetDeriveObjectHealthState status presentValueRequired
  return (state, { status with state := state })

end Reads

namespace BacnetCachedProperty

variable (entry : BacnetCachedProperty)
  (status : BacnetPropertyReadStatus)
  (value : Option BacnetValue)
  (attemptAtMs errorClass errorCode : UInt32)

@[simp] theorem status_attempted :
    (entry.attempted status value attemptAtMs errorClass
      errorCode).status = status := by
  unfold attempted
  cases value with
  | none => rfl
  | some value =>
      dsimp only
      split
      · rfl
      split <;> rfl

end BacnetCachedProperty

namespace PropertyCache

/-- The slot to be filled next is one of the slots. -/
def Usable (cache : PropertyCache) : Prop :=
  cache.nextSlot < cache.slots.length

/-- A slot holds a property, and no slot in front of it does. -/
structure FirstHeld
    (cache : PropertyCache)
    (slot : Nat)
    (entry : BacnetCachedProperty) : Prop where
  held : cache.slots[slot]? = some (some entry)
  first :
    ∀ (earlier : Nat) (other : BacnetCachedProperty),
      earlier < slot → cache.slots[earlier]? = some (some other) →
        other.request ≠ entry.request

variable {cache : PropertyCache} {request : BacnetPropertyRequest}

/-- The cache finds what is held first. -/
theorem FirstHeld.find?_eq
    {slot : Nat}
    {entry : BacnetCachedProperty}
    (firstHeld : cache.FirstHeld slot entry) :
    cache.find? entry.request = some entry := by
  obtain ⟨held, first⟩ := firstHeld
  obtain ⟨inside, isEntry⟩ := List.getElem?_eq_some_iff.mp held
  have found : cache.usedSlot? entry.request = some slot := by
    refine List.findIdx?_eq_some_iff_getElem.mpr
      ⟨inside, ?_, fun earlier isEarlier holds => ?_⟩
    · rw [isEntry, Option.any_some]
      exact decide_eq_true rfl
    · obtain ⟨other, isOther, same⟩ := (Option.any_eq_true _ _).mp holds
      refine first earlier other isEarlier ?_ (of_decide_eq_true same)
      rw [List.getElem?_eq_getElem (isEarlier.trans inside), isOther]
  rw [find?, found, Option.bind_some, held]
  rfl

/-- A slot that is claimed for an absent property is the first to hold it. -/
theorem firstHeld_claim
    (absent : cache.usedSlot? request = none)
    {slot : Nat}
    (inside : slot < cache.slots.length)
    (count : Nat) :
    (cache.claim slot count request).FirstHeld slot
      { request := request } where
  held := List.getElem?_set_self inside
  first earlier other isEarlier isOther := by
    rw [claim, List.getElem?_set_ne isEarlier.ne'] at isOther
    exact ne_of_usedSlot?_none absent isOther

/-- A property is found or gets a slot. -/
theorem firstHeld_findOrCreate
    (usable : cache.Usable)
    (request : BacnetPropertyRequest) :
    ∃ entry, entry.request = request ∧
      (cache.findOrCreate request).2.FirstHeld
        (cache.findOrCreate request).1 entry := by
  unfold findOrCreate
  cases used : cache.usedSlot? request with
  | some slot =>
      obtain ⟨entry, held, same⟩ := held_of_usedSlot? used
      refine ⟨entry, same, held, fun earlier other isEarlier isOther => ?_⟩
      obtain ⟨inside, -, first⟩ := List.findIdx?_eq_some_iff_getElem.mp used
      intro sameRequest
      obtain ⟨isInside, isThere⟩ := List.getElem?_eq_some_iff.mp isOther
      refine first earlier isEarlier ?_
      rw [isThere, Option.any_some]
      exact decide_eq_true (sameRequest.trans same)
  | none =>
      dsimp only
      cases free : cache.freeSlot? with
      | some slot =>
          have inside : slot < cache.slots.length := by
            unfold freeSlot? at free
            split at free
            · have unused := List.find?_some free
              by_contra outside
              rw [List.getElem?_eq_none (Nat.le_of_not_lt outside)] at unused
              exact Bool.false_ne_true unused
            · cases free
          exact ⟨_, rfl, firstHeld_claim used inside _⟩
      | none => exact ⟨_, rfl, firstHeld_claim used usable _⟩

theorem usable_findOrCreate
    (usable : cache.Usable)
    (request : BacnetPropertyRequest) :
    (cache.findOrCreate request).2.Usable := by
  have positive : 0 < cache.slots.length := Nat.zero_lt_of_lt usable
  have claimed (slot count : Nat) :
      (cache.claim slot count request).Usable := by
    unfold Usable claim
    rw [List.length_set]
    exact Nat.mod_lt _ positive
  unfold findOrCreate
  split
  · exact usable
  split
  · exact claimed _ _
  · exact claimed _ _

section Update

variable (usable : cache.Usable)
  (request : BacnetPropertyRequest)
  (status : BacnetPropertyReadStatus)
  (value : Option BacnetValue)
  (attemptAtMs errorClass errorCode : UInt32)

include usable

theorem usable_update :
    (cache.update request status value attemptAtMs errorClass
      errorCode).Usable := by
  have kept := usable_findOrCreate usable request
  unfold Usable update
  dsimp only
  rw [List.length_modify]
  exact kept

/-- The outcome of an attempt is found, whatever it replaced. -/
theorem status_find?_update :
    ((cache.update request status value attemptAtMs errorClass
      errorCode).find? request).map BacnetCachedProperty.status =
        some status := by
  obtain ⟨entry, same, held, first⟩ :=
    firstHeld_findOrCreate usable request
  have updated :
      (cache.update request status value attemptAtMs errorClass
        errorCode).FirstHeld (cache.findOrCreate request).1
          (entry.attempted status value attemptAtMs errorClass errorCode) := by
    unfold update
    refine ⟨?_, fun earlier other isEarlier isOther => ?_⟩
    · dsimp only
      rw [List.getElem?_modify_eq, held]
      rfl
    · dsimp only at isOther
      rw [List.getElem?_modify_ne _ _ isEarlier.ne'] at isOther
      rw [show (entry.attempted status value attemptAtMs errorClass
          errorCode).request = entry.request from
        entry.request_afterAttempt ⟨request, status, value, attemptAtMs,
          errorClass, errorCode⟩]
      exact first earlier other isEarlier isOther
  have isRequest :
      (entry.attempted status value attemptAtMs errorClass
        errorCode).request = request :=
    (entry.request_afterAttempt ⟨request, status, value, attemptAtMs,
      errorClass, errorCode⟩).trans same
  have found := updated.find?_eq
  rw [isRequest] at found
  rw [found, Option.map_some, BacnetCachedProperty.status_attempted]

end Update

theorem usable_ofSize {size : Nat} (positive : 0 < size) :
    (ofSize size).Usable := by
  unfold Usable ofSize
  rw [List.length_replicate]
  exact positive

/-- Attempts leave a cache usable. -/
theorem FollowsFrom.usable
    {before after : PropertyCache}
    (follows : before.FollowsFrom after)
    (usable : before.Usable) :
    after.Usable := by
  obtain ⟨operations, rfl⟩ := follows
  induction operations.flatMap CacheOperation.attempts
    generalizing before with
  | nil => exact usable
  | cons attempt rest inductionHypothesis =>
      exact inductionHypothesis (usable_update usable ..)

end PropertyCache

namespace ClientSystem

variable {τ : Type} (runtime : ClientRuntime τ)

/-- The cache of a session has a slot to be filled next. -/
def UsableCache
    (id : SessionId)
    (system : ClientSystem τ) : Prop :=
  (system.sessions id).propertyCache.Usable

/-- The cache says of a property what the last read of it said. -/
def LastRead
    (id : SessionId)
    (request : BacnetPropertyRequest)
    (status : BacnetPropertyReadStatus)
    (system : ClientSystem τ) : Prop :=
  ((system.sessions id).propertyCache.find? request).map
    BacnetCachedProperty.status = some status

theorem lastRead_updated
    {system : ClientSystem τ}
    {id : SessionId}
    (usable : system.UsableCache id)
    (request : BacnetPropertyRequest)
    (status : BacnetPropertyReadStatus)
    (value : Option BacnetValue)
    (now errorClass errorCode : UInt32) :
    (system.setSession id
      ((system.sessions id).updatePropertyCache request status value now
        errorClass errorCode)).LastRead id request status := by
  unfold LastRead
  rw [sessions_setSession_self]
  exact PropertyCache.status_find?_update usable ..

/-- Every read that returns has told the cache its status. -/
theorem lastRead_readPropertyDetailed
    {system : ClientSystem τ}
    {id : SessionId}
    (usable : system.UsableCache id)
    (request : BacnetPropertyRequest)
    (timeoutMs : UInt32)
    (rounds : Nat)
    {result : PropertyReadResult}
    (returns :
      (system.readPropertyDetailed runtime id request timeoutMs rounds).1 =
        some result) :
    (system.readPropertyDetailed runtime id request timeoutMs
      rounds).2.LastRead id request result.status := by
  revert returns
  unfold readPropertyDetailed cacheFailure
  dsimp only
  split
  · intro returns
    obtain rfl := Option.some.inj returns
    exact lastRead_updated usable ..
  have allocated : (system.allocateInvokeId id).2.UsableCache id := by
    unfold UsableCache allocateInvokeId
    dsimp only
    rw [sessions_setSession_self]
    exact usable
  split
  · intro returns
    obtain rfl := Option.some.inj returns
    exact lastRead_updated allocated ..
  split
  · intro returns
    cases returns
  · intro returns
    obtain rfl := Option.some.inj returns
    exact lastRead_updated allocated ..
  · intro returns
    obtain rfl := Option.some.inj returns
    exact lastRead_updated allocated ..

theorem usableCache_readPropertyDetailed
    {system : ClientSystem τ}
    {id : SessionId}
    (usable : system.UsableCache id)
    (request : BacnetPropertyRequest)
    (timeoutMs : UInt32)
    (rounds : Nat) :
    (system.readPropertyDetailed runtime id request timeoutMs
      rounds).2.UsableCache id :=
  (((ExchangeStep.refl system).readPropertyDetailed runtime id request
    timeoutMs rounds).quiet.session id).cache.usable usable

/-- What a read of a session returns and leaves. -/
theorem exec_readPropertyStatusAndValue
    (timeoutMs : UInt32)
    (rounds : Nat)
    (id : SessionId)
    (request : BacnetPropertyRequest)
    (system : ClientSystem τ) :
    (readPropertyStatusAndValue runtime timeoutMs rounds id request).exec
        system =
      ((system.readPropertyDetailed runtime id request timeoutMs
          rounds).1.map fun result => (result.status, result.value),
        (system.readPropertyDetailed runtime id request timeoutMs
          rounds).2) := by
  unfold readPropertyStatusAndValue
  rw [exec_bind, exec_mk]
  rcases system.readPropertyDetailed runtime id request timeoutMs rounds with
    ⟨_ | result, after⟩ <;> rfl

/-- The last status of a property the cache knows. -/
theorem exec_lastStatus
    {property : BacnetProperty}
    {status : BacnetPropertyReadStatus}
    {system : ClientSystem τ}
    (last : system.LastRead property.session property.request status) :
    property.lastStatus.exec system = (some status, system) := by
  obtain ⟨cached, isCached, rfl⟩ := Option.map_eq_some_iff.mp last
  have looked :
      property.lastStatus.exec system =
        (match (system.sessions property.session).propertyCache.find?
            property.request with
          | none => pure .skipped
          | some cached => pure cached.status :
            BlockingCall τ BacnetPropertyReadStatus).exec system :=
    rfl
  rw [looked, isCached]
  rfl

/-- A read followed by a look at the cache is the read. -/
theorem agree_readThenLastStatus
    (timeoutMs : UInt32)
    (rounds : Nat)
    (property : BacnetProperty) :
    Agree (UsableCache (τ := τ) property.session)
      (property.readThenLastStatus runtime timeoutMs rounds)
      (readPropertyStatusAndValue runtime timeoutMs rounds property.session
        property.request) := by
  intro system usable
  have read := exec_readPropertyStatusAndValue runtime timeoutMs rounds
    property.session property.request system
  have kept := usableCache_readPropertyDetailed runtime usable
    property.request timeoutMs rounds
  have told {result : PropertyReadResult} :=
    @lastRead_readPropertyDetailed _ runtime _ _ usable property.request
      timeoutMs rounds result
  unfold BacnetProperty.readThenLastStatus BacnetProperty.read
  rw [exec_bind, exec_bind, read]
  rcases outcome : system.readPropertyDetailed runtime property.session
      property.request timeoutMs rounds with ⟨_ | result, after⟩
  · rw [outcome] at kept
    exact ⟨rfl, kept⟩
  · rw [outcome] at kept told
    refine ⟨?_, ?_⟩
    · simp only [Option.map_some, exec_pure, exec_bind]
      rw [exec_lastStatus (told rfl)]
    · simp only [Option.map_some, exec_pure, exec_bind]
      rw [exec_lastStatus (told rfl)]
      exact kept

/-- A process object and its session do the same, read by read. -/
theorem agree_readObjectStatus
    (timeoutMs : UInt32)
    (rounds : Nat)
    (object : BacnetProcessObject)
    (presentValueRequired : Bool) :
    Agree (UsableCache (τ := τ) object.session)
      ((fun status => (status.state, status)) <$>
        object.readStatus runtime timeoutMs rounds presentValueRequired)
      (readObjectStatus runtime timeoutMs rounds object.session
        object.objectId presentValueRequired) := by
  have agree (property : BacnetPropertyId) :=
    agree_readThenLastStatus runtime timeoutMs rounds
      (object.property property)
  unfold BacnetProcessObject.readStatus readObjectStatus
  simp only [map_bind, map_pure, enumValueFromCachedProcessValue_eq,
    booleanValueFromCachedProcessValue_eq]
  refine (agree .presentValue).bind fun _ => ?_
  refine (agree .statusFlags).bind fun _ => ?_
  refine (agree .eventState).bind fun _ => ?_
  refine (agree .reliability).bind fun _ => ?_
  refine (agree .outOfService).bind fun _ => ?_
  exact agree_pure _

/--
Whatever the cache holds, and whatever the reads meet, a process object and
its session send the same, leave the same state and report the same status;
and every cache with room for an entry stays one where they do, whatever the
application calls and its callbacks call.
-/
theorem readStatus_eq_readObjectStatus :
    (∀ (timeoutMs : UInt32) (rounds : Nat) (object : BacnetProcessObject)
        (presentValueRequired : Bool) (system : ClientSystem τ),
        system.UsableCache object.session →
          (readObjectStatus runtime timeoutMs rounds object.session
              object.objectId presentValueRequired).exec system =
            (((object.readStatus runtime timeoutMs rounds
                presentValueRequired).exec system).1.map
                  fun status => (status.state, status),
              ((object.readStatus runtime timeoutMs rounds
                presentValueRequired).exec system).2)) ∧
      ∀ (application : ClientApplication τ) (depth : Nat)
        (system : ClientSystem τ) (steps : List ClientStep)
        (id : SessionId) (size : Nat),
        0 < size → (system.sessions id).propertyCache = .ofSize size →
          (system.run runtime (application.callback runtime depth)
            steps).UsableCache id := by
  constructor
  · intro timeoutMs rounds object presentValueRequired system usable
    have agree := (agree_readObjectStatus runtime timeoutMs rounds object
      presentValueRequired system usable).1
    rw [exec_map] at agree
    exact agree.symm
  · intro application depth system steps id size positive empty
    have follows :=
      (followsCache (.trivial τ)).run runtime application depth system steps
        id
    apply follows.usable
    rw [empty]
    exact PropertyCache.usable_ofSize positive

/-- A running client with caches of one slot, whose device is silent. -/
def oneSlotSystem : ClientSystem (List (Option ReceivedDatagram)) where
  client := { transport := [], running := true }
  sessions _ :=
    { endpoint := scriptedPeer, deviceInstance := 123,
      propertyCache := .ofSize 1 }

/-- Each read evicts the property read before it. -/
theorem readStatus_eq_readObjectStatus_oneSlot :
    (readObjectStatus scriptedRuntime 0 1 0 ⟨0, 1⟩ true).exec
        oneSlotSystem =
      (((BacnetProcessObject.readStatus scriptedRuntime 0 1 ⟨0, ⟨0, 1⟩⟩
          true).exec oneSlotSystem).1.map
            fun status => (status.state, status),
        ((BacnetProcessObject.readStatus scriptedRuntime 0 1 ⟨0, ⟨0, 1⟩⟩
          true).exec oneSlotSystem).2) :=
  (readStatus_eq_readObjectStatus scriptedRuntime).1 0 1 ⟨0, ⟨0, 1⟩⟩
    true oneSlotSystem (by unfold UsableCache PropertyCache.Usable; decide)

end ClientSystem

end BacnetStack
