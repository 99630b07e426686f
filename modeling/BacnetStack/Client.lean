import BacnetStack.BoundedQueue
import BacnetStack.ProtocolRequestBuild
import BacnetStack.ProtocolResponseDecode

namespace BacnetStack

/-!
# The client

One socket with the requests that are sent through it and the polls that read
one datagram each.  The transport, the clock and the build options are a
parameter: a machine whose state `τ` is everything outside the client, so a
theorem about every such machine is one about every order of arrivals, every
lost packet and every clock.
-/

/-- A datagram the transport delivered, with the endpoint it came from. -/
structure ReceivedDatagram where
  source : BacnetIpEndpoint
  packet : List UInt8
  deriving Repr, DecidableEq

/-- Octets of the buffer that a client reads a datagram into. -/
abbrev kMaxDiscoveryPacketSize : Nat := 512

/-- A packet that fits into the buffer of a client. -/
def Receivable (packet : List UInt8) : Prop :=
  packet.length ≤ kMaxDiscoveryPacketSize

instance (packet : List UInt8) : Decidable (Receivable packet) :=
  inferInstanceAs (Decidable (packet.length ≤ kMaxDiscoveryPacketSize))

/-- A transport drops a datagram that does not fit into the buffer. -/
def intoBuffer (arrived : Option ReceivedDatagram) :
    Option ReceivedDatagram :=
  arrived.filter fun datagram => decide (Receivable datagram.packet)

/-- What is in the buffer fits into it. -/
theorem receivable_of_intoBuffer
    {arrived : Option ReceivedDatagram}
    {datagram : ReceivedDatagram}
    (read : intoBuffer arrived = some datagram) :
    Receivable datagram.packet :=
  of_decide_eq_true (Option.filter_eq_some_iff.mp read).2

/-- What is in the buffer has arrived. -/
theorem arrived_of_intoBuffer
    {arrived : Option ReceivedDatagram}
    {datagram : ReceivedDatagram}
    (read : intoBuffer arrived = some datagram) :
    arrived = some datagram :=
  (Option.filter_eq_some_iff.mp read).1

/-- A datagram that fits is read as it arrived. -/
theorem intoBuffer_eq
    {source : BacnetIpEndpoint}
    {packet : List UInt8}
    (fits : Receivable packet) :
    intoBuffer (some ⟨source, packet⟩) = some ⟨source, packet⟩ :=
  Option.filter_some_pos (decide_eq_true fits)

/-- A datagram that does not fit is not read. -/
theorem intoBuffer_eq_none
    {source : BacnetIpEndpoint}
    {packet : List UInt8}
    (long : ¬Receivable packet) :
    intoBuffer (some ⟨source, packet⟩) = none :=
  Option.filter_some_neg (decide_eq_false long)

/-- Either nothing is read, or there is a reply and it fits. -/
theorem intoBuffer_reply_cases
    (source : BacnetIpEndpoint)
    (reply : Option (List UInt8)) :
    intoBuffer (reply.map fun packet => ⟨source, packet⟩) = none ∨
      ∃ packet, reply = some packet ∧ Receivable packet := by
  cases reply with
  | none => exact .inl rfl
  | some packet =>
      by_cases fits : Receivable packet
      · exact .inr ⟨packet, rfl, fits⟩
      · exact .inl (intoBuffer_eq_none fits)

/--
What a client is linked with.  `receive` answers nothing where the transport
of the source reads zero octets, and it never answers more than fits into the
buffer; the options are those of the build and the platform.
-/
structure ClientRuntime (τ : Type) where
  receive : τ → Option ReceivedDatagram × τ
  receivable :
    ∀ transport datagram,
      (receive transport).1 = some datagram → Receivable datagram.packet
  send : τ → BacnetIpEndpoint → List UInt8 → Bool × τ
  nowMs : τ → UInt32 × τ
  idle : τ → τ
  writePropertyEnabled : Bool := false
  priorityWriteEnabled : Bool := false
  unsignedLongIs64Bit : Bool := false

/--
What passed the client's socket, and which of it a poll took for a COV
notification.
-/
inductive ClientTraffic where
  | received (datagram : ReceivedDatagram)
  | sent
      (destination : BacnetIpEndpoint)
      (packet : List UInt8)
      (accepted : Bool)
  | notified (notification : BacnetCovNotification)
  deriving Repr, DecidableEq

/-- Capacity of a queue of COV notifications. -/
abbrev kMaxQueuedCovNotifications : Nat := 2

abbrev CovNotificationQueue : Type :=
  BoundedQueue BacnetCovNotification kMaxQueuedCovNotifications

/-- A client with the state of its transport and its traffic, newest first. -/
structure BacnetClient (τ : Type) where
  transport : τ
  running : Bool := false
  queuedCovNotifications : CovNotificationQueue := .empty
  traffic : List ClientTraffic := []

/-- What is known about a discovered device. -/
structure BacnetIAmDevice where
  endpoint : BacnetIpEndpoint := {}
  info : BacnetIAmDeviceInfo := {}
  deriving Repr, DecidableEq, Inhabited

inductive BacnetReadPropertyPollStatus where
  | none
  | ack
  | error
  | reject
  | abort
  | decodeError
  deriving Repr, DecidableEq, Inhabited

inductive BacnetWritePropertyPollStatus where
  | none
  | ack
  | error
  | notCommandable
  | reject
  | abort
  | decodeError
  | disabled
  | invalidArgument
  | unsupportedValue
  | sendFailed
  deriving Repr, DecidableEq, Inhabited

/-- What a poll for a ReadProperty response reports. -/
structure BacnetReadPropertyPoll where
  status : BacnetReadPropertyPollStatus := .none
  value : BacnetValue := {}
  errorClass : UInt32 := 0
  errorCode : UInt32 := 0
  deriving Repr, DecidableEq, Inhabited

/-- `isZero`; the port is not looked at. -/
def BacnetIpEndpoint.isZero (endpoint : BacnetIpEndpoint) : Bool :=
  endpoint.a == 0 && endpoint.b == 0 && endpoint.c == 0 && endpoint.d == 0

/-- The notification a datagram carries, with its sender. -/
def ReceivedDatagram.covNotification?
    (datagram : ReceivedDatagram) : Option BacnetCovNotification :=
  (parseCovNotification datagram.packet).map fun notification =>
    { notification with source := datagram.source }

/-- Outcome of a read for one received packet. -/
def readPropertyOutcome
    (packet : List UInt8)
    (expectedInvokeId : UInt8)
    (expectedRequest : BacnetPropertyRequest) : BacnetReadPropertyPoll :=
  match classifyReadPropertyResponse packet expectedInvokeId with
  | .ack =>
      match parseReadPropertyAck packet expectedInvokeId expectedRequest with
      | (true, value) => { status := .ack, value := value }
      | (false, value) => { status := .decodeError, value := value }
  | .error =>
      match parseReadPropertyError packet expectedInvokeId with
      | some error => {
          status := .error
          value := error.value
          errorClass := error.errorClass
          errorCode := error.errorCode
        }
      | none => { status := .decodeError }
  | .reject =>
      { status := .reject
        value := setTextValue {} .error (asciiBytes "reject") }
  | .abort =>
      { status := .abort
        value := setTextValue {} .error (asciiBytes "abort") }
  | .unrelated => {}

/--
Outcome of reading a whole priority array for one received packet: the slots
are reported with an acknowledgement only.
-/
def readPriorityArrayOutcome
    (packet : List UInt8)
    (expectedInvokeId : UInt8)
    (expectedRequest : BacnetPropertyRequest) :
    BacnetReadPropertyPoll × List BacnetValue :=
  match classifyReadPropertyResponse packet expectedInvokeId with
  | .ack =>
      match
        parseReadPriorityArrayAck
          packet expectedInvokeId expectedRequest with
      | some slots => ({ status := .ack }, slots)
      | none => ({ status := .decodeError }, [])
  | .error =>
      match parseReadPropertyError packet expectedInvokeId with
      | some error =>
          ({ status := .error
             errorClass := error.errorClass
             errorCode := error.errorCode }, [])
      | none => ({ status := .decodeError }, [])
  | .reject => ({ status := .reject }, [])
  | .abort => ({ status := .abort }, [])
  | .unrelated => ({}, [])

/--
Outcome of a write for one received packet.  The error that means "not
commandable" is recognised by the octets of the shortest encoding.
-/
def writePropertyOutcome
    (packet : List UInt8)
    (expectedInvokeId : UInt8) : BacnetWritePropertyPollStatus :=
  match classifyWritePropertyResponse packet expectedInvokeId with
  | .ack => .ack
  | .error =>
      if 13 ≤ packet.length ∧ packet[9]? = some 0x91 ∧
          packet[10]? = some 2 ∧ packet[11]? = some 0x91 ∧
          packet[12]? = some 40 then
        .notCommandable
      else
        .error
  | .reject => .reject
  | .abort => .abort
  | .unrelated => .none

namespace BacnetClient

variable {τ : Type} (runtime : ClientRuntime τ)

/-- Read one datagram from the socket. -/
def receive
    (client : BacnetClient τ) :
    Option ReceivedDatagram × BacnetClient τ :=
  match runtime.receive client.transport with
  | (none, transport) => (none, { client with transport := transport })
  | (some datagram, transport) =>
      (some datagram,
        { client with
          transport := transport
          traffic := .received datagram :: client.traffic })

/-- Hand one packet to the transport. -/
def send
    (client : BacnetClient τ)
    (destination : BacnetIpEndpoint)
    (packet : List UInt8) : Bool × BacnetClient τ :=
  let (accepted, transport) :=
    runtime.send client.transport destination packet
  (accepted,
    { client with
      transport := transport
      traffic := .sent destination packet accepted :: client.traffic })

def nowMs (client : BacnetClient τ) : UInt32 × BacnetClient τ :=
  let (now, transport) := runtime.nowMs client.transport
  (now, { client with transport := transport })

def idle (client : BacnetClient τ) : BacnetClient τ :=
  { client with transport := runtime.idle client.transport }

/-- `begin`; `bound` is the outcome of binding the transport. -/
def start
    (client : BacnetClient τ)
    (bound : Bool) : BacnetClient τ :=
  { client with running := bound, queuedCovNotifications := .empty }

/-- `end` -/
def stop (client : BacnetClient τ) : BacnetClient τ :=
  { client with running := false, queuedCovNotifications := .empty }

/-- Send a request that was built, unless the client is stopped. -/
def sendRequest
    (client : BacnetClient τ)
    (destination : BacnetIpEndpoint)
    (request : Option (List UInt8)) : Bool × BacnetClient τ :=
  match request with
  | none => (false, client)
  | some packet =>
      if client.running then
        client.send runtime destination packet
      else
        (false, client)

def sendWhoIs
    (client : BacnetClient τ)
    (destination : BacnetIpEndpoint) : Bool × BacnetClient τ :=
  client.sendRequest runtime destination (buildWhoIsRequest 8)

def sendReadProperty
    (client : BacnetClient τ)
    (destination : BacnetIpEndpoint)
    (request : BacnetPropertyRequest)
    (invokeId : UInt8) : Bool × BacnetClient τ :=
  if destination.isZero then
    (false, client)
  else
    client.sendRequest runtime destination
      (buildReadPropertyRequest 25 request invokeId)

def sendSubscribeCov
    (client : BacnetClient τ)
    (destination : BacnetIpEndpoint)
    (processId : UInt32)
    (object : BacnetObjectId)
    (lifetimeSeconds : UInt32)
    (invokeId : UInt8)
    (issueConfirmedNotifications : Bool) : Bool × BacnetClient τ :=
  client.sendRequest runtime destination
    ((buildSubscribeCovRequest 40 processId object lifetimeSeconds
      issueConfirmedNotifications).map fun request =>
        request.set 8 invokeId)

def sendSubscribeCovProperty
    (client : BacnetClient τ)
    (destination : BacnetIpEndpoint)
    (processId : UInt32)
    (object : BacnetObjectId)
    (property : BacnetPropertyId)
    (lifetimeSeconds : UInt32)
    (invokeId : UInt8)
    (issueConfirmedNotifications : Bool)
    (arrayIndex : UInt32)
    (hasCovIncrement : Bool)
    (covIncrement : Binary32) : Bool × BacnetClient τ :=
  client.sendRequest runtime destination
    ((buildSubscribeCovPropertyRequest 40 processId object property
      lifetimeSeconds issueConfirmedNotifications arrayIndex
      hasCovIncrement covIncrement).map fun request =>
        request.set 8 invokeId)

/-- Whether the build accepts a write with or without a priority. -/
def writeEnabled
    (runtime : ClientRuntime τ)
    (hasPriority : Bool) : Bool :=
  runtime.writePropertyEnabled &&
    (!hasPriority || runtime.priorityWriteEnabled)

/-- The common end of both forms of `sendWriteProperty`. -/
def sendWriteRequest
    (client : BacnetClient τ)
    (destination : BacnetIpEndpoint)
    (request : Option (List UInt8)) :
    BacnetWritePropertyPollStatus × BacnetClient τ :=
  match request with
  | none => (.unsupportedValue, client)
  | some packet =>
      match client.send runtime destination packet with
      | (true, client) => (.none, client)
      | (false, client) => (.sendFailed, client)

/-- `sendWriteProperty` of a property reference, without options. -/
def sendWriteProperty
    (client : BacnetClient τ)
    (destination : BacnetIpEndpoint)
    (request : BacnetPropertyRequest)
    (value : BacnetValue)
    (invokeId : UInt8) :
    BacnetWritePropertyPollStatus × BacnetClient τ :=
  if !runtime.writePropertyEnabled then
    (.disabled, client)
  else if !client.running || destination.isZero then
    (.sendFailed, client)
  else if 1023 < request.object.type ∨
      0x003FFFFF < request.object.instance_ then
    (.invalidArgument, client)
  else
    client.sendWriteRequest runtime destination
      (buildWritePropertyRequest 544 request.object request.property value
        { arrayIndex := request.arrayIndex } invokeId)

/-- `sendWriteProperty` with options. -/
def sendWritePropertyWithOptions
    (client : BacnetClient τ)
    (destination : BacnetIpEndpoint)
    (object : BacnetObjectId)
    (property : BacnetPropertyId)
    (value : BacnetValue)
    (options : BacnetWritePropertyOptions)
    (invokeId : UInt8) :
    BacnetWritePropertyPollStatus × BacnetClient τ :=
  if !writeEnabled runtime options.hasPriority then
    (.disabled, client)
  else if !client.running || destination.isZero then
    (.sendFailed, client)
  else if 1023 < object.type ∨ 0x003FFFFF < object.instance_ ∨
      (options.hasPriority = true ∧
        (options.priority = 0 ∨ 16 < options.priority)) then
    (.invalidArgument, client)
  else
    client.sendWriteRequest runtime destination
      (buildWritePropertyRequest 544 object property value options invokeId)

/-- A poll took the datagram it read for a notification. -/
def noteNotification
    (client : BacnetClient τ)
    (notification : BacnetCovNotification) : BacnetClient τ :=
  { client with traffic := .notified notification :: client.traffic }

/-- Keep a notification for a later poll. -/
def queueCovNotification
    (client : BacnetClient τ)
    (notification : BacnetCovNotification) : BacnetClient τ :=
  { client with
    queuedCovNotifications :=
      client.queuedCovNotifications.push notification }

/-- `acknowledgeCovNotification`; an unconfirmed one needs no answer. -/
def acknowledgeCovNotification
    (client : BacnetClient τ)
    (notification : BacnetCovNotification) : Bool × BacnetClient τ :=
  if notification.confirmed then
    match
      buildSimpleAckResponse 16 notification.invokeId
        kServiceConfirmedCovNotification with
    | none => (false, client)
    | some acknowledgement =>
        client.send runtime notification.source acknowledgement
  else
    (true, client)

/-- The oldest queued notification, or else the next datagram if it is one. -/
def nextCovNotification
    (client : BacnetClient τ) :
    Option BacnetCovNotification × BacnetClient τ :=
  if !client.running then
    (none, client)
  else
    match client.queuedCovNotifications.takeFirst with
    | some (notification, rest) =>
        (some notification, { client with queuedCovNotifications := rest })
    | none =>
        match client.receive runtime with
        | (none, client) => (none, client)
        | (some datagram, client) =>
            match datagram.covNotification? with
            | none => (none, client)
            | some notification =>
                (some notification, client.noteNotification notification)

/-- `pollCovNotification` -/
def pollCovNotification
    (client : BacnetClient τ)
    (acknowledgeConfirmed : Bool) :
    Option BacnetCovNotification × BacnetClient τ :=
  match client.nextCovNotification runtime with
  | (none, client) => (none, client)
  | (some notification, client) =>
      if acknowledgeConfirmed then
        match client.acknowledgeCovNotification runtime notification with
        | (true, client) => (some notification, client)
        | (false, client) => (none, client)
      else
        (some notification, client)

/-- Read one datagram and classify it; a stopped client reads nothing. -/
def pollDatagram {Outcome : Type}
    (client : BacnetClient τ)
    (pending : Outcome)
    (classify : ReceivedDatagram → Outcome) : Outcome × BacnetClient τ :=
  if client.running then
    match client.receive runtime with
    | (none, client) => (pending, client)
    | (some datagram, client) => (classify datagram, client)
  else
    (pending, client)

/--
`pollSubscribeCov` and `pollSubscribeCovProperty`, which differ in the
service choice they expect.  A COV notification is queued, and a response of
another peer than the expected one is ignored.
-/
def pollSubscribeCov
    (client : BacnetClient τ)
    (expectedInvokeId expectedServiceChoice : UInt8)
    (expectedPeer : Option BacnetIpEndpoint) :
    (BacnetSubscribeCovResponseKind × UInt8) × BacnetClient τ :=
  if client.running then
    match client.receive runtime with
    | (none, client) => ((.none, 0xFF), client)
    | (some datagram, client) =>
        match datagram.covNotification? with
        | some notification =>
            ((.none, 0xFF),
              (client.noteNotification notification).queueCovNotification
                notification)
        | none =>
            if ∃ peer ∈ expectedPeer, datagram.source ≠ peer then
              ((.none, 0xFF), client)
            else
              (classifySubscribeCovResponse datagram.packet
                expectedInvokeId expectedServiceChoice, client)
  else
    ((.none, 0xFF), client)

def pollReadPropertyStatus
    (client : BacnetClient τ)
    (expectedInvokeId : UInt8)
    (expectedRequest : BacnetPropertyRequest) :
    BacnetReadPropertyPoll × BacnetClient τ :=
  client.pollDatagram runtime {} fun datagram =>
    readPropertyOutcome datagram.packet expectedInvokeId expectedRequest

def pollReadPriorityArrayStatus
    (client : BacnetClient τ)
    (expectedInvokeId : UInt8)
    (expectedRequest : BacnetPropertyRequest) :
    (BacnetReadPropertyPoll × List BacnetValue) × BacnetClient τ :=
  client.pollDatagram runtime ({}, []) fun datagram =>
    readPriorityArrayOutcome
      datagram.packet expectedInvokeId expectedRequest

/-- `pollWriteProperty`; a stopped client reports a failed send. -/
def pollWriteProperty
    (client : BacnetClient τ)
    (expectedInvokeId : UInt8) :
    BacnetWritePropertyPollStatus × BacnetClient τ :=
  if !runtime.writePropertyEnabled then
    (.disabled, client)
  else if !client.running then
    (.sendFailed, client)
  else
    client.pollDatagram runtime .none fun datagram =>
      writePropertyOutcome datagram.packet expectedInvokeId

def pollIAm
    (client : BacnetClient τ) :
    Option BacnetIAmDevice × BacnetClient τ :=
  client.pollDatagram runtime none fun datagram =>
    (parseIAmResponse datagram.packet).map fun info =>
      { endpoint := datagram.source, info := info }

end BacnetClient

end BacnetStack
