import BacnetStack.ProtocolTypes

namespace BacnetStack

/-!
# Reading packets

The source walks a buffer with an offset.  Here a reader consumes the suffix
that starts at that offset, so the bytes still available are the length of
the suffix.  The two ways a read can stop are kept apart: `rejected` is a
check of the source that failed, `outOfRange` is an access past the end of
the packet, which the checks are there to prevent.
-/

/-- Why a reader stopped. -/
inductive ReadFault where
  | rejected
  | outOfRange
  deriving Repr, DecidableEq, Inhabited

/-- A parser over the unread suffix of a packet. -/
abbrev Reader (α : Type) : Type :=
  StateT (List UInt8) (Except ReadFault) α

namespace Reader

/-- Stop with a failed check. -/
def reject {α : Type} : Reader α :=
  throw .rejected

/-- Continue only when a check of the source holds. -/
def require (holds : Bool) : Reader Unit :=
  if holds then pure () else reject

/-- Number of bytes from the current offset to the end of the packet. -/
def remaining : Reader Nat := do
  return (← get).length

/-- `offset < length` -/
def hasMore : Reader Bool := do
  return !(← get).isEmpty

/-- `buffer[offset]` -/
def peek : Reader UInt8 := do
  match ← get with
  | [] => throw .outOfRange
  | byte :: _ => return byte

/-- `buffer[offset++]` -/
def next : Reader UInt8 := do
  match ← get with
  | [] => throw .outOfRange
  | byte :: rest =>
      set rest
      return byte

/-- `offset += count` -/
def skip (count : Nat) : Reader Unit :=
  modify (List.drop count)

/-- `offset >= length` fails the parse, otherwise the next byte is taken. -/
def checkedNext : Reader UInt8 := do
  require (← hasMore)
  next

/-- The next byte must be there and be the expected one. -/
def expect (byte : UInt8) : Reader Unit := do
  require ((← checkedNext) == byte)

/-- Read `count` bytes onto an accumulator, most significant first. -/
def bigEndian : Nat → UInt32 → Reader UInt32
  | 0, value => return value
  | count + 1, value => do
      let byte ← next
      bigEndian count ((value <<< 8) ||| byte.toUInt32)

/-- Run a reader from the start of a packet. -/
def parse? {α : Type}
    (reader : Reader α)
    (packet : List UInt8) : Option α :=
  match reader.run packet with
  | .ok (value, _) => some value
  | .error _ => none

end Reader

open Reader

/-- Whether a tag octet has the context class bit set. -/
def isContextTag (tag : UInt8) : Bool :=
  tag &&& 0x08 != 0

/-- The current byte opens a context tag of the given number. -/
def atContextTag (tagNumber : UInt8) : Reader Bool := do
  if ← hasMore then
    let tag ← peek
    return tag >>> 4 == tagNumber && isContextTag tag
  else
    return false

/-- An application-tagged number of one to four octets. -/
def readApplicationValue (expectedTag : UInt8) : Reader UInt32 := do
  let tag ← checkedNext
  let valueLength := (tag &&& 0x07).toNat
  require (!isContextTag tag && tag >>> 4 == expectedTag &&
    valueLength != 0 && decide (valueLength ≤ 4) &&
    decide (valueLength ≤ (← remaining)))
  bigEndian valueLength 0

/-- A context-tagged number of one to four octets. -/
def readContextValue (expectedTag : UInt8) : Reader UInt32 := do
  let tag ← checkedNext
  let valueLength := (tag &&& 0x07).toNat
  require (isContextTag tag && tag >>> 4 == expectedTag &&
    valueLength != 0 && decide (valueLength ≤ 4) &&
    decide (valueLength ≤ (← remaining)))
  bigEndian valueLength 0

/-- A context-tagged single-precision number. -/
def readContextReal (expectedTag : UInt8) : Reader Binary32 := do
  let tag ← checkedNext
  require (tag >>> 4 == expectedTag && isContextTag tag &&
    tag &&& 0x07 == 4 && decide (4 ≤ (← remaining)))
  return ⟨← bigEndian 4 0⟩

/--
Length announced by an application tag.  The extended form has one length
octet; longer forms are not supported.
-/
def readLengthField (lvt : UInt8) : Reader Nat := do
  if lvt < 5 then
    return lvt.toNat
  else if lvt = 5 then
    return (← checkedNext).toNat
  else
    reject

/-- An application tag whose whole value is still in the packet. -/
def readApplicationTagHeader (expectedTag : UInt8) : Reader Nat := do
  let tag ← checkedNext
  require (!isContextTag tag && tag >>> 4 == expectedTag)
  let valueLength ← readLengthField (tag &&& 0x07)
  require (decide (valueLength ≤ (← remaining)))
  return valueLength

abbrev kBvlcTypeBacnetIp : UInt8 := 0x81
abbrev kBvlcOriginalUnicastNpdu : UInt8 := 0x0A
abbrev kBvlcOriginalBroadcastNpdu : UInt8 := 0x0B
abbrev kNpduVersion : UInt8 := 0x01
abbrev kNpduExpectingReply : UInt8 := 0x04

/--
The BACnet/IP header.  Every decoder makes this check with its own minimum
packet length, and some accept broadcasts as well.
-/
def readBvlcHeader
    (minimumLength : Nat)
    (acceptBroadcast : Bool) : Reader Unit := do
  let length ← remaining
  require (decide (minimumLength ≤ length))
  let bvlcType ← next
  let bvlcFunction ← next
  let lengthHigh ← next
  let lengthLow ← next
  require (bvlcType == kBvlcTypeBacnetIp &&
    (bvlcFunction == kBvlcOriginalUnicastNpdu ||
      (acceptBroadcast && bvlcFunction == kBvlcOriginalBroadcastNpdu)) &&
    lengthHigh.toNat * 256 + lengthLow.toNat == length)

/-- Network number, address length and address. -/
def skipNpduAddress : Reader Unit := do
  require (decide (3 ≤ (← remaining)))
  skip 2
  let addressLength := (← next).toNat
  require (decide (addressLength ≤ (← remaining)))
  skip addressLength

/-- The network header up to the first application octet. -/
def readNpduHeader : Reader Unit := do
  expect kNpduVersion
  let npduControl ← checkedNext
  require (npduControl &&& 0x80 == 0)
  if npduControl &&& 0x20 != 0 then
    skipNpduAddress
    require (← hasMore)
    skip 1
  if npduControl &&& 0x08 != 0 then
    skipNpduAddress

end BacnetStack
