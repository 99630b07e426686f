import BacnetStack.ServerReadProperty

namespace BacnetStack

/-!
# Optional properties

An object-centric object collects optional properties before and after it is
registered.  The first error is kept as its configuration status; the slots
themselves stay distinct and supported.
-/

/-- What the configuration of an object reports. -/
inductive BacnetObjectConfigurationStatus where
  | ok
  | invalidArgument
  | propertyTypeMismatch
  | propertyNotSupported
  | duplicateProperty
  | propertyCapacityExceeded
  | serverCapacityExceeded
  | registrationModeConflict
  deriving Repr, DecidableEq, Inhabited

namespace BacnetObjectPropertySlotValue

/-- The slot holds a text. -/
def isCharacterString : BacnetObjectPropertySlotValue → Bool
  | .characterString _ => true
  | _ => false

/-- The slot holds a Real or refers to one. -/
def isReal : BacnetObjectPropertySlotValue → Bool
  | .real _ | .realReference _ => true
  | _ => false

/-- The slot holds a Boolean or refers to one. -/
def isBoolean : BacnetObjectPropertySlotValue → Bool
  | .boolean _ | .booleanReference _ => true
  | _ => false

/-- The slot holds an enumerated value or refers to one. -/
def isEnumerated : BacnetObjectPropertySlotValue → Bool
  | .enumerated _ | .enumeratedReference _ => true
  | _ => false

/-- The slot holds a bit string or refers to one. -/
def isBitString : BacnetObjectPropertySlotValue → Bool
  | .bitString _ _ | .bitStringReference _ _ => true
  | _ => false

end BacnetObjectPropertySlotValue

/-- `hasExpectedPropertyType` -/
def hasExpectedPropertyType
    (property : BacnetPropertyId)
    (value : BacnetObjectPropertySlotValue) : Bool :=
  match property with
  | .description => value.isCharacterString
  | .minPresentValue | .maxPresentValue | .resolution => value.isReal
  | .outOfService => value.isBoolean
  | .reliability | .eventState | .units => value.isEnumerated
  | .statusFlags => value.isBitString
  | _ => false

/-- The properties an object-centric kind supports, and how many of them. -/
structure PropertySupport where
  supportsProperty :
    BacnetPropertyId → BacnetObjectPropertySlotValue → Bool
  kMaxOptionalProperties : Nat

/-- The properties an Analog Input can be given. -/
def analogInputSupport : PropertySupport where
  supportsProperty property value :=
    match property with
    | .description => value.isCharacterString
    | .minPresentValue | .maxPresentValue | .resolution => value.isReal
    | .reliability | .eventState => value.isEnumerated
    | .statusFlags => value.isBitString
    | _ => false
  kMaxOptionalProperties := 7

/-- The properties a Binary Input can be given. -/
def binaryInputSupport : PropertySupport where
  supportsProperty property value :=
    match property with
    | .description => value.isCharacterString
    | .reliability | .eventState => value.isEnumerated
    | .statusFlags => value.isBitString
    | _ => false
  kMaxOptionalProperties := 4

/-- The properties a Binary Output can be given. -/
def binaryOutputSupport : PropertySupport where
  supportsProperty property value :=
    match property with
    | .description => value.isCharacterString
    | _ => false
  kMaxOptionalProperties := 1

/-- `BacnetObjectWithProperties` -/
structure ObjectProperties (support : PropertySupport) where
  slots : List BacnetObjectPropertySlot
  configurationStatus : BacnetObjectConfigurationStatus
  distinct : (slots.map BacnetObjectPropertySlot.property).Nodup
  supported :
    ∀ slot ∈ slots, support.supportsProperty slot.property slot.value

namespace ObjectProperties

variable {support : PropertySupport}

/-- An object starts without optional properties. -/
def initializeProperties : ObjectProperties support where
  slots := []
  configurationStatus := .ok
  distinct := List.nodup_nil
  supported := by simp

/-- Only the first error is kept. -/
def recordConfigurationStatus
    (properties : ObjectProperties support)
    (status : BacnetObjectConfigurationStatus) :
    ObjectProperties support :=
  if properties.configurationStatus = .ok then
    { properties with configurationStatus := status }
  else
    properties

/-- `addPropertyValue`, with the status it returns. -/
def addPropertyValue
    (properties : ObjectProperties support)
    (property : BacnetPropertyId)
    (value : BacnetObjectPropertySlotValue) :
    ObjectProperties support × BacnetObjectConfigurationStatus :=
  let failed (status : BacnetObjectConfigurationStatus) :=
    (properties.recordConfigurationStatus status, status)
  if !hasExpectedPropertyType property value then
    failed .propertyTypeMismatch
  else if isSupported :
      support.supportsProperty property value = true then
    if isNew : property ∉
        properties.slots.map BacnetObjectPropertySlot.property then
      if properties.slots.length = support.kMaxOptionalProperties then
        failed .propertyCapacityExceeded
      else
        ({ properties with
            slots := properties.slots ++ [⟨property, value⟩]
            distinct := by
              rw [List.map_append, List.nodup_append']
              refine ⟨properties.distinct, List.nodup_singleton _, ?_⟩
              exact List.disjoint_singleton.mpr isNew
            supported := by
              intro slot isSlot
              rcases List.mem_append.mp isSlot with old | added
              · exact properties.supported slot old
              · rw [List.mem_singleton.mp added]
                exact isSupported }, .ok)
    else
      failed .duplicateProperty
  else
    failed .propertyNotSupported

/-- `addProperty`; without a value the pointer to it is null. -/
def addProperty
    (properties : ObjectProperties support)
    (property : BacnetPropertyId)
    (value : Option BacnetObjectPropertySlotValue) :
    ObjectProperties support × BacnetObjectConfigurationStatus :=
  match value with
  | none =>
      (properties.recordConfigurationStatus .invalidArgument,
        .invalidArgument)
  | some value => properties.addPropertyValue property value

end ObjectProperties

end BacnetStack
