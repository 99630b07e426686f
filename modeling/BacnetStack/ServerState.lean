import BacnetStack.ServerObjects

namespace BacnetStack

/-!
# Server state

The state of one server: its lifecycle, its device record and objects, and
the fixed table of COV subscriptions.  The arrays the source keeps in
parallel to the subscription table are fields of one table slot here.
-/

/-- What one call of `poll` reports. -/
inductive BacnetServerPollResult where
  | notRunning
  | noDatagram
  | ignored
  | malformed
  | iAmSent
  | rejectSent
  | readPropertyAckSent
  | readPropertyErrorSent
  | writePropertyAckSent
  | writePropertyErrorSent
  | subscribeCovAckSent
  | subscribeCovErrorSent
  | covNotificationSent
  | sendFailed
  deriving Repr, DecidableEq, Inhabited

inductive BacnetServerCovSubscriptionState where
  | inactive
  | active
  | awaitingConfirmedAck
  deriving Repr, DecidableEq, Inhabited

structure BacnetServerCovSubscription where
  state : BacnetServerCovSubscriptionState := .inactive
  peer : BacnetIpEndpoint := {}
  processId : UInt32 := 0
  object : BacnetObjectId := {}
  property : BacnetPropertyId := .presentValue
  arrayIndex : UInt32 := kBacnetNoArrayIndex
  isPropertySubscription : Bool := false
  hasCovIncrement : Bool := false
  covIncrement : Binary32 := .zero
  confirmed : Bool := false
  lifetimeSeconds : UInt32 := 0
  expiresAtMs : UInt32 := 0
  lastSentMs : UInt32 := 0
  lastAckMs : UInt32 := 0
  pendingInvokeId : UInt8 := 0
  deriving Repr, DecidableEq, Inhabited

/-- The most properties a subscription reports. -/
abbrev kCovObjectPropertyCount : Nat := 2

/-- Number of slots of the subscription table. -/
abbrev kMaxCovSubscriptions : Nat := 8

/-- Size of the server's packet buffers. -/
abbrev kMaxDatagramSize : Nat := 1476

/-- The stored part of one reported value. -/
structure CovSnapshot where
  valid : Bool := false
  type : BacnetValueType := .empty
  boolean : Bool := false
  unsigned : UInt32 := 0
  real : Binary32 := .zero
  bitString : UInt32 := 0
  bitCount : UInt8 := 0
  deriving Repr, DecidableEq, Inhabited

/--
One table slot: the subscription with its snapshots, its retry counters and
the time of its next attempt, where 0 means that no attempt is pending.
-/
@[ext] structure CovSlot where
  subscription : BacnetServerCovSubscription := {}
  snapshots : Fin kCovObjectPropertyCount → CovSnapshot := fun _ => {}
  confirmedRetryCount : UInt8 := 0
  sendRetryCount : UInt8 := 0
  retryAtMs : UInt32 := 0

/-- Index of a table slot. -/
abbrev CovIndex : Type := Fin kMaxCovSubscriptions

structure BacnetServer where
  hasTransport : Bool := false
  running : Bool := false
  device : BacnetServerDevice := {}
  port : UInt16 := 47808
  objects : ServerObjects := {}
  localWritePriority : UInt8 := 16
  hasClock : Bool := false
  covSlots : CovIndex → CovSlot := fun _ => {}
  nextCovInvokeId : UInt8 := 1

namespace BacnetServer

/-- Replace one table slot. -/
def setSlot
    (server : BacnetServer)
    (index : CovIndex)
    (slot : CovSlot) : BacnetServer :=
  { server with covSlots := Function.update server.covSlots index slot }

@[simp] theorem setSlot_covSlots
    (server : BacnetServer)
    (index : CovIndex)
    (slot : CovSlot) :
    (server.setSlot index slot).covSlots =
      Function.update server.covSlots index slot :=
  rfl

@[simp] theorem setSlot_device
    (server : BacnetServer)
    (index : CovIndex)
    (slot : CovSlot) :
    (server.setSlot index slot).device = server.device :=
  rfl

@[simp] theorem setSlot_objects
    (server : BacnetServer)
    (index : CovIndex)
    (slot : CovSlot) :
    (server.setSlot index slot).objects = server.objects :=
  rfl

@[simp] theorem setSlot_hasClock
    (server : BacnetServer)
    (index : CovIndex)
    (slot : CovSlot) :
    (server.setSlot index slot).hasClock = server.hasClock :=
  rfl

@[simp] theorem setSlot_nextCovInvokeId
    (server : BacnetServer)
    (index : CovIndex)
    (slot : CovSlot) :
    (server.setSlot index slot).nextCovInvokeId =
      server.nextCovInvokeId :=
  rfl

/-- Without a clock every time reads as 0. -/
def nowMs
    (server : BacnetServer)
    (clockMs : UInt32) : UInt32 :=
  if server.hasClock then clockMs else 0

/-- The server's own Device identifier. -/
def deviceObject (server : BacnetServer) : BacnetObjectId :=
  ⟨BacnetObjectType.device, server.device.deviceInstance⟩

end BacnetServer

/-- A packet handed to the transport, with its destination. -/
structure Datagram where
  destination : BacnetIpEndpoint
  packet : List UInt8
  deriving Repr, DecidableEq

/--
What a poll meets: the received packet (empty when there is none) with its
source, the clock reading, and whether the transport accepts the packet the
poll may send.
-/
structure PollInput where
  packet : List UInt8 := []
  source : BacnetIpEndpoint := {}
  clockMs : UInt32 := 0
  sendSucceeds : Bool := true
  deriving Repr, DecidableEq

/--
A notification the server built for a subscription: the values it carries,
the invoke id it was given and whether it repeats an unacknowledged one.
-/
structure CovTransmission where
  index : CovIndex
  values : List BacnetCovPropertyValue
  invokeId : UInt8
  isRetransmission : Bool
  delivered : Bool
  deriving Repr, DecidableEq

/--
Result of a poll: the new state and what left the server.  The last two
fields are what the diagnostic listener of the source is told: the
notification that was built and the slot a subscription was activated in.
-/
structure PollOutput where
  server : BacnetServer
  result : BacnetServerPollResult
  datagram : Option Datagram := none
  transmission : Option CovTransmission := none
  activated : Option CovIndex := none

/--
Send a reply that was built; an empty one is not handed to the transport.
-/
def sendReply
    (server : BacnetServer)
    (input : PollInput)
    (reply : Option (List UInt8))
    (sent : BacnetServerPollResult) : PollOutput :=
  match reply with
  | none => { server := server, result := .sendFailed }
  | some packet =>
      { server := server
        result := if input.sendSucceeds then sent else .sendFailed
        datagram := some ⟨input.source, packet⟩ }

@[simp] theorem sendReply_server
    (server : BacnetServer)
    (input : PollInput)
    (reply : Option (List UInt8))
    (sent : BacnetServerPollResult) :
    (sendReply server input reply sent).server = server := by
  cases reply <;> rfl

@[simp] theorem sendReply_transmission
    (server : BacnetServer)
    (input : PollInput)
    (reply : Option (List UInt8))
    (sent : BacnetServerPollResult) :
    (sendReply server input reply sent).transmission = none := by
  cases reply <;> rfl

@[simp] theorem sendReply_activated
    (server : BacnetServer)
    (input : PollInput)
    (reply : Option (List UInt8))
    (sent : BacnetServerPollResult) :
    (sendReply server input reply sent).activated = none := by
  cases reply <;> rfl

end BacnetStack
