import BacnetStack.ServerCov

namespace BacnetStack

/-!
# Polling and lifecycle

One call of `poll`, with the dispatch of a received packet, and the calls
that start, stop and configure a server.  The events at the end are the steps
of a run: whatever the application and the network may do next.
-/

namespace BacnetServer

variable (server : BacnetServer)

/--
How a packet answers the pending notification of a slot; slots that await
nothing from its source are not looked at.
-/
def slotResponse
    (input : PollInput)
    (slot : CovSlot) : BacnetSubscribeCovResponseKind :=
  let subscription := slot.subscription
  if subscription.state = .awaitingConfirmedAck ∧
      subscription.peer = input.source then
    classifyConfirmedCovNotificationResponse
      input.packet subscription.pendingInvokeId
  else
    .none

/-- The first slot a packet answers. -/
def answeredSlot? (input : PollInput) : Option CovIndex :=
  (List.finRange kMaxCovSubscriptions).find? fun index =>
    slotResponse input (server.covSlots index) != .none

/-- A slot whose notification was answered; only an acknowledgement is timed. -/
def completeSlot
    (input : PollInput)
    (slot : CovSlot) : CovSlot :=
  { slot with
    subscription := {
      slot.subscription with
      state := .active
      lastAckMs :=
        if slotResponse input slot = .ack then
          server.nowMs input.clockMs
        else
          slot.subscription.lastAckMs
    }
    confirmedRetryCount := 0 }

def sendIAm (input : PollInput) : PollOutput :=
  sendReply server input
    (buildIAmResponse 26 {
      deviceInstance := server.device.deviceInstance
      maxApduLengthAccepted := server.device.maxApduLengthAccepted
      segmentationSupported := server.device.segmentationSupported
      vendorId := server.device.vendorId
    }) .iAmSent

def kRejectReasonUnrecognizedService : UInt8 := 9

def sendReject
    (input : PollInput)
    (invokeId : UInt8) : PollOutput :=
  sendReply server input
    (buildRejectResponse 9 invokeId kRejectReasonUnrecognizedService)
    .rejectSent

/-- The poll answers nothing and changes nothing. -/
def silent (result : BacnetServerPollResult) : PollOutput :=
  { server := server, result := result }

/-- A confirmed request, by the first service whose decoder knows it. -/
def handleConfirmedRequest
    (input : PollInput)
    (invokeId : UInt8) : PollOutput :=
  match parseReadPropertyRequest input.packet with
  | .malformed => server.silent .malformed
  | .parsed request => server.handleReadProperty input request
  | .unrelated =>
  match parseWritePropertyRequest input.packet with
  | .malformed => server.silent .malformed
  | .parsed request => server.handleWriteProperty input request
  | .unrelated =>
  match parseSubscribeCovRequest input.packet with
  | .malformed => server.silent .malformed
  | .parsed request => server.handleSubscribeCov input request
  | .unrelated => server.sendReject input invokeId

/-- A packet that answers no notification. -/
def handleRequest (input : PollInput) : PollOutput :=
  match parseWhoIsRequest input.packet with
  | some whoIs =>
      if whoIs.includes server.device.deviceInstance then
        server.sendIAm input
      else
        server.silent .ignored
  | none =>
      match parseConfirmedRequestHeader input.packet with
      | .malformed => server.silent .malformed
      | .unrelated => server.silent .ignored
      | .parsed confirmed =>
          server.handleConfirmedRequest input confirmed.invokeId

def poll (input : PollInput) : PollOutput :=
  if !server.running || !server.hasTransport then
    server.silent .notRunning
  else if input.packet.isEmpty then
    server.processCovSubscriptions input
  else if kMaxDatagramSize < input.packet.length then
    server.silent .malformed
  else
    match server.answeredSlot? input with
    | some index =>
        (server.setSlot index
          (server.completeSlot input (server.covSlots index))).silent
          .ignored
    | none => server.handleRequest input

/-- Drop every subscription. -/
def clearSubscriptions : BacnetServer :=
  { server with covSlots := fun index => (server.covSlots index).drop }

/-- A Device registration must name the configured instance. -/
def acceptsDevice (device : BacnetServerDevice) : Bool :=
  server.hasTransport && decide (device.deviceInstance ≤ 0x003FFFFF) &&
    server.objects.propertyRegistrations.all fun registration =>
      registration.object.type != BacnetObjectType.device ||
        registration.object.instance_ == device.deviceInstance

/-- `begin`; `bound` is the outcome of binding the transport. -/
def start
    (device : BacnetServerDevice)
    (localPort : UInt16)
    (bound : Bool) : BacnetServer :=
  if server.acceptsDevice device && bound then
    { server.clearSubscriptions with
      device := device
      port := localPort
      running := true }
  else
    server

/-- `end` -/
def stop : BacnetServer :=
  { server.clearSubscriptions with running := false }

/-- `setTransport`, refused while the server runs. -/
def setTransport : BacnetServer :=
  if server.running then
    server
  else
    { server with hasTransport := true }

/-- `setClock` -/
def setClock (hasClock : Bool) : BacnetServer :=
  { server with hasClock := hasClock }

/-- `setLocalWritePriority`, refused outside 1 to 16. -/
def setLocalWritePriority (priority : UInt8) : BacnetServer :=
  if priority = 0 ∨ kSlotCount < priority.toNat then
    server
  else
    { server with localWritePriority := priority }

/--
The application changes its objects, the values behind them or what it
registered.
-/
def setObjects (objects : ServerObjects) : BacnetServer :=
  { server with objects := objects }

end BacnetServer

/-- What may happen to a server next. -/
inductive ServerEvent where
  | poll (input : PollInput)
  | setObjects (objects : ServerObjects)
  | start (device : BacnetServerDevice) (localPort : UInt16) (bound : Bool)
  | stop
  | setTransport
  | setClock (hasClock : Bool)
  | setLocalWritePriority (priority : UInt8)

/-- The state after one event. -/
def BacnetServer.step
    (server : BacnetServer)
    (event : ServerEvent) : BacnetServer :=
  match event with
  | .poll input => (server.poll input).server
  | .setObjects objects => server.setObjects objects
  | .start device localPort bound => server.start device localPort bound
  | .stop => server.stop
  | .setTransport => server.setTransport
  | .setClock hasClock => server.setClock hasClock
  | .setLocalWritePriority priority => server.setLocalWritePriority priority

end BacnetStack
