import BacnetStack.ProtocolReader

namespace BacnetStack

/-!
# Decoding application values

Every decoded value also gets a printable text.  The text buffers of the
source have fixed sizes; a text that does not fit makes the decoder fail,
except for object lists, which stop at the last entry that still fits.
-/

open Reader

/-- The bytes of an ASCII literal. -/
def asciiBytes (literal : String) : List UInt8 :=
  literal.toList.map Char.toUInt8

/-- `copyTextValue`: the value's text buffer keeps room for a terminator. -/
def copyTextValue
    (value : BacnetValue)
    (text : List UInt8) : BacnetValue :=
  { value with text := text.take (kMaxTextLength - 1) }

/-- `setTextValue` -/
def setTextValue
    (value : BacnetValue)
    (type : BacnetValueType)
    (text : List UInt8) : BacnetValue :=
  copyTextValue { value with type := type } text

/-- Append to a text buffer of the given capacity, terminator included. -/
def appendText
    (capacity : Nat)
    (used text : List UInt8) : Option (List UInt8) :=
  if used.length + text.length ≥ capacity then
    none
  else
    some (used ++ text)

/-- Decimal digits; ten of them suffice for every 32-bit number. -/
def unsignedDecimal (value : UInt32) : List UInt8 :=
  (Nat.toDigits 10 value.toNat).map Char.toUInt8

/-- `appendUnsignedDecimal` -/
def appendUnsignedDecimal
    (capacity : Nat)
    (used : List UInt8)
    (value : UInt32) : Option (List UInt8) :=
  appendText capacity used (unsignedDecimal value)

/-- `writeSignedDecimal` -/
def signedDecimal (value : Int32) : List UInt8 :=
  if value < 0 then
    asciiBytes "-" ++ unsignedDecimal (UInt32.ofNat (-value.toInt).toNat)
  else
    unsignedDecimal (UInt32.ofNat value.toInt.toNat)

/-- One decimal digit of a number, as a character. -/
def decimalDigit (value : UInt32) : UInt8 :=
  48 + (value % 10).toUInt8

/--
`writeFixed3Decimal`: three decimals.  Where the conversion to an integer is
undefined in the source, zero stands for whatever the platform produces.
-/
def fixed3Decimal (value : Binary32) : List UInt8 :=
  let isNegative := Binary32.flt value .zero
  let magnitude := if isNegative then value.neg else value
  let thousand : Binary32 := ⟨0x447A0000⟩
  let half : Binary32 := ⟨0x3F000000⟩
  let scaled :=
    ((magnitude.mul thousand).add half).toUInt32?.getD 0
  let fractionalPart := scaled % 1000
  (if isNegative then asciiBytes "-" else []) ++
    unsignedDecimal (scaled / 1000) ++ asciiBytes "." ++
    [decimalDigit (fractionalPart / 100),
      decimalDigit (fractionalPart / 10),
      decimalDigit fractionalPart]

/-- `writeHex32` -/
def hex32 (value : UInt32) : List UInt8 :=
  (List.range 8).map fun index =>
    let nibble := (value >>> UInt32.ofNat ((7 - index) * 4)) &&& 0x0F
    if nibble < 10 then 48 + nibble.toUInt8 else 87 + nibble.toUInt8

/-- Continue with a text that fitted its buffer. -/
def Reader.ofText (text : Option (List UInt8)) : Reader (List UInt8) :=
  match text with
  | some text => pure text
  | none => reject

def parseApplicationNull : Reader BacnetValue := do
  require ((← readApplicationTagHeader 0) == 0)
  return setTextValue {} .null (asciiBytes "null")

/-- The length bits of the tag hold the truth value. -/
def parseApplicationBoolean : Reader BacnetValue := do
  let tag ← checkedNext
  require (!isContextTag tag && tag >>> 4 == 1)
  let booleanValue := tag &&& 0x07 != 0
  return copyTextValue
    { type := .boolean, booleanValue := booleanValue }
    (asciiBytes (if booleanValue then "true" else "false"))

/-- Unsigned and enumerated values differ in the tag only. -/
def parseApplicationUnsigned (expectedTag : UInt8) : Reader BacnetValue := do
  let parsedValue ← readApplicationValue expectedTag
  return copyTextValue
    { type := if expectedTag = 9 then .enumerated else .unsigned,
      unsignedValue := parsedValue }
    (unsignedDecimal parsedValue)

/-- Extend the sign of a number read from `valueLength` octets. -/
def signExtend
    (rawValue : UInt32)
    (valueLength : Nat) : Int32 :=
  (if rawValue &&& (1 <<< UInt32.ofNat (valueLength * 8 - 1)) != 0 &&
      decide (valueLength < 4) then
    rawValue ||| (0xFFFFFFFF <<< UInt32.ofNat (valueLength * 8))
  else
    rawValue).toInt32

def parseApplicationSigned : Reader BacnetValue := do
  let tag ← checkedNext
  let valueLength := (tag &&& 0x07).toNat
  require (!isContextTag tag && tag >>> 4 == 3 &&
    valueLength != 0 && decide (valueLength ≤ 4) &&
    decide (valueLength ≤ (← remaining)))
  let parsedValue := signExtend (← bigEndian valueLength 0) valueLength
  return copyTextValue
    { type := .signed, signedValue := parsedValue }
    (signedDecimal parsedValue)

def parseApplicationReal : Reader BacnetValue := do
  require ((← readApplicationTagHeader 4) == 4)
  let parsedValue : Binary32 := ⟨← bigEndian 4 0⟩
  return copyTextValue
    { type := .real, realValue := parsedValue }
    (fixed3Decimal parsedValue)

/-- Take `count` octets. -/
def Reader.takeBytes : Nat → Reader (List UInt8)
  | 0 => return []
  | count + 1 => do
      let byte ← next
      return byte :: (← takeBytes count)

/-- Bit `index` of an octet string, most significant bit of each octet first. -/
def octetBit
    (octets : List UInt8)
    (index : Nat) : Bool :=
  (octets.getD (index / 8) 0).toNat.testBit (7 - index % 8)

/-- Collect the first `count` bits into a number, first bit lowest. -/
def packBits
    (octets : List UInt8)
    (count : Nat) : UInt32 :=
  (List.range count).foldl
    (fun value index =>
      if octetBit octets index then
        value ||| (1 <<< UInt32.ofNat index)
      else
        value)
    0

def parseApplicationBitString : Reader BacnetValue := do
  let valueLength ← readApplicationTagHeader 8
  require (decide (2 ≤ valueLength))
  let unusedBits ← next
  let dataLength := valueLength - 1
  require (decide (unusedBits ≤ 7) && decide (dataLength ≤ 4))
  let bitCount := dataLength * 8 - unusedBits.toNat
  let octets ← takeBytes dataLength
  let bitStringValue := packBits octets bitCount
  let bits := unsignedDecimal (UInt32.ofNat bitCount)
  let used := asciiBytes "bits=0x"
  require (decide (used.length + 8 + 1 + bits.length + 1 ≤ 32))
  return copyTextValue
    { type := .bitString,
      bitStringValue := bitStringValue,
      bitStringBitCount := UInt8.ofNat bitCount }
    (used ++ hex32 bitStringValue ++ asciiBytes "/" ++ bits)

/-- Split an encoded identifier into type and instance. -/
def decodeObjectId (objectIdentifier : UInt32) : BacnetObjectId :=
  { type := (objectIdentifier >>> 22).toUInt16,
    instance_ := objectIdentifier &&& kObjectInstanceMask }

/-- `type,instance` -/
def objectIdText (object : BacnetObjectId) : List UInt8 :=
  unsignedDecimal object.type.toUInt32 ++ asciiBytes "," ++
    unsignedDecimal object.instance_

def parseApplicationObjectIdentifier : Reader BacnetValue := do
  let object := decodeObjectId (← readApplicationValue 12)
  return copyTextValue
    { type := .objectIdentifier, objectValue := object }
    (objectIdText object)

def parseApplicationCharacterString : Reader BacnetValue := do
  let stringLength ← readApplicationTagHeader 7
  require (stringLength != 0)
  -- The first octet names the character set and is not looked at.
  skip 1
  let text ← takeBytes (stringLength - 1)
  return { type := .characterString, text := text.take (kMaxTextLength - 1) }

def parseUnsupportedApplicationValue : Reader BacnetValue := do
  let tag ← checkedNext
  require (!isContextTag tag)
  let valueLength ← readLengthField (tag &&& 0x07)
  require (decide (valueLength ≤ (← remaining)))
  skip valueLength
  let text ← Reader.ofText
    (appendUnsignedDecimal 48
      (asciiBytes "unsupported application tag ") (tag >>> 4).toUInt32)
  return setTextValue {} .unsupported text

/-- Append `;type,instance`, without the separator in front of the first. -/
def appendObjectId
    (used : List UInt8)
    (object : BacnetObjectId) :
    List UInt8 × Bool :=
  -- Each piece that fits stays in the buffer even when a later one does not.
  let withSeparator :=
    if used.isEmpty then
      some used
    else
      appendText kMaxTextLength used (asciiBytes ";")
  match withSeparator with
  | none => (used, false)
  | some used =>
  match appendUnsignedDecimal kMaxTextLength used object.type.toUInt32 with
  | none => (used, false)
  | some used =>
  match appendText kMaxTextLength used (asciiBytes ",") with
  | none => (used, false)
  | some used =>
  match appendUnsignedDecimal kMaxTextLength used object.instance_ with
  | none => (used, false)
  | some used => (used, true)

/--
The loop over a list of object identifiers up to the closing tag.  Every
entry takes at least two octets, so the packet length bounds the rounds.
-/
def objectIdentifierListText : Nat → List UInt8 → Reader (List UInt8)
  | 0, used => return used
  | rounds + 1, used => do
      if ← hasMore then
        if (← peek) != 0x3F then
          let object := decodeObjectId (← readApplicationValue 12)
          match appendObjectId used object with
          | (used, true) => objectIdentifierListText rounds used
          | (used, false) => return used
        else
          return used
      else
        return used

def parseApplicationObjectIdentifierList : Reader BacnetValue := do
  let used ← objectIdentifierListText (← remaining) []
  require (!used.isEmpty)
  return { type := .objectIdentifierList, text := used }

/-- The loop over a list of property identifiers up to the closing tag. -/
def propertyIdentifierListText : Nat → List UInt8 → Reader (List UInt8)
  | 0, used => return used
  | rounds + 1, used => do
      if ← hasMore then
        if (← peek) != 0x3F then
          let propertyIdentifier ← readApplicationValue 9
          let separated ←
            if used.isEmpty then
              pure used
            else
              Reader.ofText
                (appendText kMaxTextLength used (asciiBytes ";"))
          let extended ← Reader.ofText
            (appendUnsignedDecimal
              kMaxTextLength separated propertyIdentifier)
          propertyIdentifierListText rounds extended
        else
          return used
      else
        return used

def parseApplicationPropertyIdentifierList : Reader BacnetValue := do
  let used ← propertyIdentifierListText (← remaining) []
  require (!used.isEmpty)
  return { type := .propertyIdentifierList, text := used }

/-- The value of any property, by its application tag. -/
def parseTaggedApplicationValue : Reader BacnetValue := do
  let tagNumber := (← peek) >>> 4
  if tagNumber = 0 then
    parseApplicationNull
  else if tagNumber = 1 then
    parseApplicationBoolean
  else if tagNumber = 2 then
    parseApplicationUnsigned 2
  else if tagNumber = 3 then
    parseApplicationSigned
  else if tagNumber = 4 then
    parseApplicationReal
  else if tagNumber = 7 then
    parseApplicationCharacterString
  else if tagNumber = 8 then
    parseApplicationBitString
  else if tagNumber = 9 then
    parseApplicationUnsigned 9
  else if tagNumber = 12 then
    parseApplicationObjectIdentifier
  else
    parseUnsupportedApplicationValue

/--
`parseReadPropertyApplicationValue`: Object_List, Property_List and
Device_Address_Binding have forms of their own in front of the general
dispatch.
-/
def parseReadPropertyApplicationValue
    (expectedProperty : BacnetPropertyId)
    (arrayIndex : UInt32) : Reader BacnetValue := do
  require (← hasMore)
  let first ← peek
  if expectedProperty = .objectList ∧ first >>> 4 = 2 then
    parseApplicationUnsigned 2
  else if expectedProperty = .objectList ∧ first >>> 4 = 12 then
    if arrayIndex ≠ kBacnetNoArrayIndex then
      parseApplicationObjectIdentifier
    else
      parseApplicationObjectIdentifierList
  else if expectedProperty = .propertyList ∧
      arrayIndex = kBacnetNoArrayIndex then
    parseApplicationPropertyIdentifierList
  else if expectedProperty = .deviceAddressBinding ∧ first = 0x3F then
    return { type := .empty }
  else
    parseTaggedApplicationValue

end BacnetStack
