import BacnetStack.ProtocolAckContent
import BacnetStack.ProtocolResponseDecode
import Mathlib.Data.List.Forall2

namespace BacnetStack

/-!
# Read acknowledgements, built and parsed

The server's builders of ReadProperty acknowledgements meet the client's
parsers here.  The parsers take the reference away and decode what is left,
with one text buffer for a whole list of identifiers, no place for a list of
texts, and sixteen slots for a priority array.
-/

open Reader

/-- The octets behind the service choice of an acknowledgement. -/
def readAckBody
    (request : BacnetPropertyRequest)
    (values : List UInt8) : List UInt8 :=
  referenceOctets request.object request.property ++
    (optionalIndex 2 request.arrayIndex ++ 0x3E :: (values ++ [0x3F]))

/-- An acknowledgement is its headers in front of its body. -/
theorem readAckPacket_eq
    (request : BacnetReadPropertyRequestHeader)
    (values : List (List UInt8)) :
    readAckPacket request values =
      kBvlcTypeBacnetIp :: kBvlcOriginalUnicastNpdu ::
        UInt8.ofNat ((readAckPacket request values).length / 256) ::
        UInt8.ofNat (readAckPacket request values).length ::
        kNpduVersion :: 0 ::
        kApduComplexAck :: request.invokeId :: kServiceReadProperty ::
        readAckBody request.request values.flatten := by
  rw [length_readAckPacket]
  have sized :
      (readAckPrefix request ++ [0x3E] ++ values.flatten ++ [0x3F]).length =
        (readAckPrefix request).length + values.flatten.length + 2 := by
    rw [List.length_append, List.length_append, List.length_append,
      List.length_singleton, List.length_singleton]
    omega
  rw [readAckPacket, sized, readAckBody, referenceOctets, optionalIndex]
  generalize (readAckPrefix request).length + values.flatten.length + 2 =
    length
  simp only [readAckPrefix, List.cons_append, List.nil_append,
    List.append_assoc, List.set_cons_succ, List.set_cons_zero]

/-- The headers of an acknowledgement are taken away. -/
theorem run_readPropertyAckHeader
    {request : BacnetReadPropertyRequestHeader}
    {values : List (List UInt8)}
    (short : (readAckPacket request values).length ≤ 0xFFFF) :
    (readPropertyAckHeader request.invokeId).run
        (readAckPacket request values) =
      .ok ((), readAckBody request.request values.flatten) := by
  have sized := length_readAckPacket request values
  have reference := length_readAckPrefix request
  have property := (contextUnsignedSize_le request.request.property.raw).1
  unfold referenceSize at reference
  have rest :
      (kNpduVersion :: 0 :: kApduComplexAck :: request.invokeId ::
          kServiceReadProperty ::
          readAckBody request.request values.flatten).length + 4 =
        (readAckPacket request values).length := by
    conv => rhs; rw [readAckPacket_eq]
    rfl
  rw [readAckPacket_eq, readPropertyAckHeader,
    run_bind_of_ok (run_readBvlcHeader (by omega)
      ((announcedLength short).trans rest.symm)),
    run_bind_of_ok (run_readNpduHeader_plain (Or.inl rfl) _),
    run_bind_of_ok (run_remaining _), run_require_bind (by simp),
    run_bind_of_ok (run_next_cons _ _), run_require_bind (by decide),
    run_bind_of_ok (run_next_cons _ _),
    run_require_bind (beq_self_eq_true _),
    run_bind_of_ok (run_next_cons _ _)]
  rfl

/-- The reference of an acknowledgement is the requested one. -/
theorem run_readAcknowledgedProperty
    (request : BacnetPropertyRequest)
    (rest : List UInt8) :
    (readAcknowledgedProperty request).run
        (referenceOctets request.object request.property ++ rest) =
      .ok ((), rest) := by
  rw [referenceOctets, List.append_assoc, readAcknowledgedProperty,
    run_bind_of_ok (run_readContextValue_contextObjectIdentifier
      (by decide) request.object _),
    run_require_bind (beq_self_eq_true _),
    run_bind_of_ok (run_readContextValue_contextUnsigned
      (by decide) request.property.raw rest), beq_self_eq_true]
  rfl

/-- The array index of an acknowledgement is the requested one. -/
theorem run_readResponseArrayIndex
    (arrayIndex : UInt32)
    (rest : List UInt8) :
    (readResponseArrayIndex arrayIndex).run
        (optionalIndex 2 arrayIndex ++ 0x3E :: rest) =
      .ok (arrayIndex, 0x3E :: rest) := by
  unfold optionalIndex
  by_cases whole : arrayIndex = kBacnetNoArrayIndex
  · subst whole
    rfl
  · rw [if_pos whole, readResponseArrayIndex,
      run_bind_of_ok
        (run_atContextTag_contextUnsigned (by decide) 2 arrayIndex _),
      beq_self_eq_true]
    change (readContextValue 2 >>= _).run _ = _
    rw [run_bind_of_ok
      (run_readContextValue_contextUnsigned (by decide) arrayIndex _),
      run_require_bind (by rw [beq_self_eq_true, Bool.or_true])]
    rfl

/-- The client accepts what is followed by the closing bracket. -/
theorem parseReadPropertyAck_eq_true_iff
    {packet : List UInt8}
    {invokeId : UInt8}
    {request : BacnetPropertyRequest}
    {decoded : BacnetValue} :
    parseReadPropertyAck packet invokeId request = (true, decoded) ↔
      ∃ rest,
        (readPropertyAckReader invokeId request).run packet =
            .ok (decoded, rest) ∧
          rest.head? = some 0x3F := by
  unfold parseReadPropertyAck
  cases (readPropertyAckReader invokeId request).run packet with
  | error fault => simp
  | ok outcome =>
      obtain ⟨value, rest⟩ := outcome
      simp only [Prod.mk.injEq, beq_iff_eq, Except.ok.injEq]
      constructor
      · rintro ⟨closed, rfl⟩
        exact ⟨rest, ⟨rfl, rfl⟩, closed⟩
      · rintro ⟨_, ⟨rfl, rfl⟩, closed⟩
        exact ⟨closed, rfl⟩

section Parsed

variable {request : BacnetReadPropertyRequestHeader}
  {values : List (List UInt8)}
  (short : (readAckPacket request values).length ≤ 0xFFFF)

include short

/-- The client decodes what is between the brackets. -/
theorem parseReadPropertyAck_packet
    {decoded : BacnetValue} :
    parseReadPropertyAck (readAckPacket request values) request.invokeId
        request.request = (true, decoded) ↔
      ∃ rest,
        (parseReadPropertyApplicationValue request.request.property
            request.request.arrayIndex).run (values.flatten ++ [0x3F]) =
            .ok (decoded, rest) ∧
          rest.head? = some 0x3F := by
  rw [parseReadPropertyAck_eq_true_iff, readPropertyAckReader,
    run_bind_of_ok (run_readPropertyAckHeader short), readAckBody,
    run_bind_of_ok (run_readAcknowledgedProperty _ _),
    run_bind_of_ok (run_readResponseArrayIndex _ _),
    run_bind_of_ok (run_expect_cons _ _)]

end Parsed

namespace AckContent

/-- A decoded value has the type and the content that were sent. -/
def SaidBy (decoded : BacnetValue) : AckContent → Prop
  | .value sent => SameValue decoded sent
  | .slots _ => False
  | .texts sent =>
      decoded.type = .characterString ∧ [decoded.text] = sent
  | .objects sent =>
      decoded.type = .objectIdentifierList ∧
        decoded.text = listText (sent.map objectIdText)
  | .properties sent =>
      decoded.type = .propertyIdentifierList ∧
        decoded.text =
          listText (sent.map fun property => unsignedDecimal property.raw)
  | .nothing => decoded.type = .empty

/-- A decoded text says which list of identifiers was sent. -/
theorem objects_eq_of_saidBy
    {decoded : BacnetValue}
    {sent others : List BacnetObjectId}
    (someSent : sent ≠ [])
    (someOther : others ≠ [])
    (saysSent : (AckContent.objects sent).SaidBy decoded)
    (saysOther : (AckContent.objects others).SaidBy decoded) :
    sent = others :=
  listText_injective objectIdText_injective semicolon_not_mem_objectIdText
    someSent someOther (saysSent.2.symm.trans saysOther.2)

/-- A decoded text says which list of properties was sent. -/
theorem properties_eq_of_saidBy
    {decoded : BacnetValue}
    {sent others : List BacnetPropertyId}
    (someSent : sent ≠ [])
    (someOther : others ≠ [])
    (saysSent : (AckContent.properties sent).SaidBy decoded)
    (saysOther : (AckContent.properties others).SaidBy decoded) :
    sent = others :=
  listText_injective
    (fun _ _ same =>
      congrArg BacnetPropertyId.mk (unsignedDecimal_injective same))
    (fun _ => separator_not_mem_unsignedDecimal (.inr (by decide)) _)
    someSent someOther (saysSent.2.symm.trans saysOther.2)

/-- The client accepts the packet and returns exactly the content. -/
def Received
    (request : BacnetReadPropertyRequestHeader)
    (packet : List UInt8)
    (content : AckContent) : Prop :=
  match content with
  | .slots sent =>
      ∃ slots,
        parseReadPriorityArrayAck packet request.invokeId request.request =
            some slots ∧
          List.Forall₂ SameValue slots sent
  | content =>
      ∃ decoded,
        parseReadPropertyAck packet request.invokeId request.request =
            (true, decoded) ∧
          content.SaidBy decoded

/--
The contents the client has a place for: a single value where the property
has no list form, all slots of a priority array, one text, and a list whose
property has a list form and whose text fits into a value.
-/
def Readable (request : BacnetPropertyRequest) : AckContent → Prop
  | .value sent =>
      ¬ReadsAsList request.property request.arrayIndex sent.type
  | .slots sent => sent.length = 16
  | .texts sent => sent.length = 1
  | .objects sent =>
      request.property = .objectList ∧
        (listText (sent.map objectIdText)).length < kMaxTextLength
  | .properties sent =>
      request.property = .propertyList ∧
        (listText
          (sent.map fun property =>
            unsignedDecimal property.raw)).length < kMaxTextLength
  | .nothing => request.property = .deviceAddressBinding

end AckContent

/-- No encoded value starts with the closing bracket. -/
theorem applicationOctets_open
    {value : BacnetValue}
    {octets : List UInt8}
    (encoded : applicationOctets value = some octets) :
    ∃ first tail, octets = first :: tail ∧ first ≠ 0x3F := by
  have tagged := run_parseTaggedApplicationValue encoded []
  cases octets with
  | nil => exact absurd rfl (applicationOctets_ne_nil encoded)
  | cons first tail =>
      refine ⟨first, tail, rfl, ?_⟩
      rintro rfl
      cases tagged

/-- Every entry of a list takes octets. -/
theorem EncodesEach.length_le
    {α : Type}
    {valueOf : α → BacnetValue}
    {entries : List α}
    {values : List (List UInt8)}
    (encodes : EncodesEach valueOf entries values) :
    entries.length ≤ values.flatten.length := by
  induction encodes with
  | nil => exact le_rfl
  | @cons entry octets others rest encoded _ inductionHypothesis =>
      have positive :=
        List.length_pos_iff.mpr (applicationOctets_ne_nil encoded)
      rw [List.length_cons, List.flatten_cons, List.length_append]
      omega

/-- An entry of an Object_List starts with the tag of an identifier. -/
theorem head_of_listedObject
    {object : BacnetObjectId}
    {octets : List UInt8}
    (encoded : applicationOctets (listedObjectValue object) = some octets) :
    ∃ first tail, octets = first :: tail ∧ first >>> 4 = 12 := by
  have head := applicationOctets_objectIdentifier_head rfl encoded
  cases octets with
  | nil => cases head
  | cons first tail =>
      obtain rfl : first = 0xC4 := Option.some.inj head
      exact ⟨0xC4, tail, rfl, by decide⟩

/-- Every entry of a list has its octets. -/
theorem EncodesEach.octets_of_mem
    {α : Type}
    {valueOf : α → BacnetValue}
    {entries : List α}
    {values : List (List UInt8)}
    (encodes : EncodesEach valueOf entries values)
    {entry : α}
    (member : entry ∈ entries) :
    ∃ octets, applicationOctets (valueOf entry) = some octets := by
  induction encodes with
  | nil => cases member
  | cons encoded _ inductionHypothesis =>
      cases member with
      | head => exact ⟨_, encoded⟩
      | tail _ rest => exact inductionHypothesis rest

/-- Any other octet is refused. -/
theorem run_expect_other
    {octet first : UInt8}
    (other : first ≠ octet)
    (rest : List UInt8) :
    (expect octet).run (first :: rest) = .error .rejected := by
  rw [expect, run_bind_of_ok (run_checkedNext_cons _ _),
    beq_eq_false_iff_ne.mpr other]
  rfl

/-! What a client keeps, one kind of content after the other. -/

section Received

variable {request : BacnetReadPropertyRequestHeader}
  {values : List (List UInt8)}
  (short : (readAckPacket request values).length ≤ 0xFFFF)

include short

/-- One value is received where it does not stand for a list. -/
theorem received_value_iff
    {sent : BacnetValue}
    (encodes : EncodesEach id [sent] values) :
    (AckContent.value sent).Received request
        (readAckPacket request values) ↔
      (AckContent.value sent).Readable request.request := by
  obtain ⟨octets, encoded, rfl⟩ :
      ∃ octets,
        applicationOctets sent = some octets ∧ values = [octets] := by
    cases encodes with
    | cons encoded rest =>
        cases rest
        exact ⟨_, encoded, rfl⟩
  unfold AckContent.Received AckContent.Readable
  simp only [parseReadPropertyAck_packet short, List.flatten_singleton]
  constructor
  · rintro ⟨decoded, ⟨rest, read, _⟩, said⟩ listed
    exact type_of_readsAsList encoded listed read said.1
  · intro single
    exact ⟨receivedValue sent,
      ⟨[0x3F], run_parseReadPropertyApplicationValue encoded single _, rfl⟩,
      receivedValue_same encoded⟩

/-- A list of texts is received where it has one text. -/
theorem received_texts_iff
    {sent : List (List UInt8)}
    (encodes : EncodesEach listedText sent values)
    (answers : (AckContent.texts sent).Answers request.request) :
    (AckContent.texts sent).Received request
        (readAckPacket request values) ↔
      (AckContent.texts sent).Readable request.request := by
  obtain ⟨whole, named⟩ := answers
  unfold AckContent.Received AckContent.Readable
  simp only [parseReadPropertyAck_packet short]
  constructor
  · rintro ⟨decoded, _, _, isText⟩
    rw [← isText]
    rfl
  · intro one
    obtain ⟨text, rfl⟩ := List.length_eq_one_iff.mp one
    cases encodes with
    | @cons _ octets _ rest encoded others =>
        cases others
        have single :
            ¬ReadsAsList request.request.property request.request.arrayIndex
              (listedText text).type := by
          rw [named]
          rintro ⟨_, isList | ⟨_, identifier⟩⟩
          · exact absurd isList (by decide)
          · exact absurd identifier BacnetValueType.noConfusion
        refine ⟨receivedValue (listedText text), ⟨[0x3F], ?_, rfl⟩, rfl, rfl⟩
        rw [List.flatten_singleton]
        exact run_parseReadPropertyApplicationValue encoded single _

/-- An empty list is received for the one property that may be empty. -/
theorem received_nothing_iff
    (empty : values = [])
    (whole : request.request.arrayIndex = kBacnetNoArrayIndex) :
    AckContent.nothing.Received request (readAckPacket request values) ↔
      AckContent.nothing.Readable request.request := by
  subst empty
  unfold AckContent.Received AckContent.Readable
  simp only [parseReadPropertyAck_packet short, List.flatten_nil,
    List.nil_append]
  have notTag : ¬((0x3F : UInt8) >>> 4 = 2) := by decide
  have notIdentifier : ¬((0x3F : UInt8) >>> 4 = 12) := by decide
  rw [run_parseReadPropertyApplicationValue_cons,
    if_neg fun both => notTag both.2,
    if_neg fun both => notIdentifier both.2]
  by_cases properties : request.request.property = .propertyList
  · rw [if_pos ⟨properties, whole⟩, properties]
    refine iff_of_false ?_ (by decide)
    rintro ⟨_, ⟨_, read, _⟩, _⟩
    cases read
  · rw [if_neg fun both => properties both.1]
    by_cases binding : request.request.property = .deviceAddressBinding
    · rw [if_pos ⟨binding, rfl⟩]
      exact iff_of_true ⟨_, ⟨[0x3F], rfl, rfl⟩, rfl⟩ binding
    · rw [if_neg fun both => binding both.1]
      refine iff_of_false ?_ binding
      rintro ⟨_, ⟨_, read, _⟩, _⟩
      cases read

/-- The loop of an Object_List keeps the text of a list that fits. -/
theorem received_objects_iff
    {sent : List BacnetObjectId}
    (encodes : EncodesEach listedObjectValue sent values)
    (answers : (AckContent.objects sent).Answers request.request) :
    (AckContent.objects sent).Received request
        (readAckPacket request values) ↔
      (AckContent.objects sent).Readable request.request := by
  obtain ⟨whole, someObject⟩ := answers
  have enough := encodes.length_le
  obtain ⟨object, others, rfl⟩ := List.exists_cons_of_ne_nil someObject
  obtain ⟨octets, rest, encoded, _, rfl⟩ :
      ∃ octets rest,
        applicationOctets (listedObjectValue object) = some octets ∧
          EncodesEach listedObjectValue others rest ∧
          values = octets :: rest := by
    cases encodes with
    | cons encoded others => exact ⟨_, _, encoded, others, rfl⟩
  have written :
      ∀ entry ∈ (object :: others).map objectIdText, entry ≠ [] := by
    intro entry member
    obtain ⟨listed, _, rfl⟩ := List.mem_map.mp member
    exact objectIdText_ne_nil listed
  unfold AckContent.Received AckContent.Readable
  simp only [parseReadPropertyAck_packet short]
  rw [whole]
  by_cases named : request.request.property = .objectList
  · rw [named, and_iff_right rfl]
    obtain ⟨octet, tail, rfl, head⟩ := head_of_listedObject encoded
    have decodes := run_wholeObjectList head (tail ++ (rest.flatten ++ [0x3F]))
    rw [← List.cons_append, ← List.append_assoc,
      ← List.flatten_cons] at decodes
    rw [decodes]
    simp only [run_parseApplicationObjectIdentifierList_iff]
    constructor
    · rintro ⟨_, ⟨_, ⟨text, read, _, rfl⟩, _⟩, _, kept⟩
      rw [← kept]
      exact length_of_objectIdentifierListText (by decide) read
    · intro fits
      rw [← withEntries_nil written] at fits
      have rounds :
          (object :: others).length ≤
            (((octet :: tail) :: rest).flatten ++ [0x3F]).length := by
        rw [List.length_append]
        omega
      have read := run_objectIdentifierListText encodes rounds fits []
      rw [withEntries_nil written] at read
      refine ⟨_, ⟨[0x3F], ⟨_, read, ?_, rfl⟩, rfl⟩, rfl, rfl⟩
      rw [List.map_cons, listText_cons]
      intro empty
      exact objectIdText_ne_nil object (List.append_eq_nil_iff.mp empty).1
  · refine iff_of_false ?_ fun both => named both.1
    rintro ⟨decoded, ⟨_, read, _⟩, isList, _⟩
    by_cases properties : request.request.property = .propertyList
    · obtain ⟨octet, tail, rfl, _⟩ := head_of_listedObject encoded
      rw [properties, List.flatten_cons, List.append_assoc,
        List.cons_append, run_wholePropertyList,
        run_parseApplicationPropertyIdentifierList_iff] at read
      obtain ⟨_, _, _, rfl⟩ := read
      cases isList
    · have single :
          ¬ReadsAsList request.request.property kBacnetNoArrayIndex
            (listedObjectValue object).type := by
        rintro ⟨_, isProperties | ⟨isObjects, _⟩⟩
        · exact properties isProperties
        · exact named isObjects
      rw [List.flatten_cons, List.append_assoc,
        run_parseReadPropertyApplicationValue encoded single] at read
      cases read
      cases isList

/-- The loop of a Property_List keeps the text of a list that fits. -/
theorem received_properties_iff
    {sent : List BacnetPropertyId}
    (encodes : EncodesEach listedProperty sent values)
    (answers : (AckContent.properties sent).Answers request.request) :
    (AckContent.properties sent).Received request
        (readAckPacket request values) ↔
      (AckContent.properties sent).Readable request.request := by
  obtain ⟨whole, someProperty⟩ := answers
  have enough := encodes.length_le
  have numbers :
      EncodesEach enumeratedValue (sent.map BacnetPropertyId.raw) values :=
    List.forall₂_map_left_iff.mpr encodes
  have texts :
      (sent.map BacnetPropertyId.raw).map unsignedDecimal =
        sent.map fun property => unsignedDecimal property.raw :=
    List.map_map
  have written :
      ∀ entry ∈ (sent.map BacnetPropertyId.raw).map unsignedDecimal,
        entry ≠ [] := by
    intro entry member
    obtain ⟨number, _, rfl⟩ := List.mem_map.mp member
    exact unsignedDecimal_ne_nil number
  obtain ⟨property, others, rfl⟩ := List.exists_cons_of_ne_nil someProperty
  obtain ⟨octets, rest, encoded, rfl⟩ :
      ∃ octets rest,
        applicationOctets (listedProperty property) = some octets ∧
          values = octets :: rest := by
    cases encodes with
    | cons encoded others => exact ⟨_, _, encoded, rfl⟩
  unfold AckContent.Received AckContent.Readable
  simp only [parseReadPropertyAck_packet short]
  rw [whole]
  by_cases named : request.request.property = .propertyList
  · rw [named, and_iff_right rfl]
    obtain ⟨octet, tail, rfl, _⟩ := applicationOctets_open encoded
    have decodes :=
      run_wholePropertyList octet (tail ++ (rest.flatten ++ [0x3F]))
    rw [← List.cons_append, ← List.append_assoc,
      ← List.flatten_cons] at decodes
    rw [decodes]
    simp only [run_parseApplicationPropertyIdentifierList_iff]
    constructor
    · rintro ⟨_, ⟨_, ⟨text, read, _, rfl⟩, _⟩, _, kept⟩
      rw [← kept]
      exact length_of_propertyIdentifierListText (by decide) read
    · intro fits
      rw [← texts, ← withEntries_nil written] at fits
      have rounds :
          ((property :: others).map BacnetPropertyId.raw).length ≤
            (((octet :: tail) :: rest).flatten ++ [0x3F]).length := by
        rw [List.length_map, List.length_append]
        omega
      have read := run_propertyIdentifierListText numbers rounds fits []
      rw [withEntries_nil written, texts] at read
      refine ⟨_, ⟨[0x3F], ⟨_, read, ?_, rfl⟩, rfl⟩, rfl, rfl⟩
      rw [List.map_cons, listText_cons]
      intro empty
      exact unsignedDecimal_ne_nil property.raw
        (List.append_eq_nil_iff.mp empty).1
  · refine iff_of_false ?_ fun both => named both.1
    rintro ⟨decoded, ⟨_, read, _⟩, isList, _⟩
    have single :
        ¬ReadsAsList request.request.property kBacnetNoArrayIndex
          (listedProperty property).type := by
      rintro ⟨_, isProperties | ⟨_, identifier⟩⟩
      · exact named isProperties
      · exact BacnetValueType.noConfusion identifier
    rw [List.flatten_cons, List.append_assoc,
      run_parseReadPropertyApplicationValue encoded single] at read
    cases read
    cases isList

end Received

/-- No slot of a priority array stands for a list. -/
theorem not_readsAsList_priorityArray
    (type : BacnetValueType) :
    ¬ReadsAsList .priorityArray kBacnetNoArrayIndex type := by
  rintro ⟨_, isProperties | ⟨isObjects, _⟩⟩
  · exact absurd isProperties (by decide)
  · exact absurd isObjects (by decide)

/-- One slot is read in front of the others. -/
theorem run_readPrioritySlots_succ
    {value : BacnetValue}
    {octets : List UInt8}
    (encoded : applicationOctets value = some octets)
    (slots : Nat)
    (rest : List UInt8) :
    (readPrioritySlots (slots + 1)).run (octets ++ rest) =
      (readPrioritySlots slots >>= fun others =>
        pure (receivedValue value :: others)).run rest := by
  have read :=
    run_parseReadPropertyApplicationValue encoded
      (not_readsAsList_priorityArray _) rest
  obtain ⟨first, tail, rfl, opened⟩ := applicationOctets_open encoded
  have more : (!(first :: (tail ++ rest)).isEmpty) = true := rfl
  rw [readPrioritySlots, List.cons_append, run_bind_of_ok (run_hasMore _),
    run_require_bind more, run_bind_of_ok (run_peek_cons _ _),
    run_require_bind (bne_iff_ne.mpr opened), ← List.cons_append,
    run_bind_of_ok read]

/-- Slots are read one after the other, as many as are asked for. -/
theorem run_readPrioritySlots
    {sent : List BacnetValue}
    {values : List (List UInt8)}
    (encodes : EncodesEach id sent values)
    {slots : Nat}
    (enough : slots ≤ sent.length)
    (rest : List UInt8) :
    (readPrioritySlots slots).run (values.flatten ++ rest) =
      .ok ((sent.take slots).map receivedValue,
        (values.drop slots).flatten ++ rest) := by
  induction slots generalizing sent values with
  | zero => rfl
  | succ slots inductionHypothesis =>
      cases encodes with
      | nil => exact absurd enough (Nat.not_succ_le_zero slots)
      | @cons value octets others remaining encoded areEncoded =>
          rw [List.flatten_cons, List.append_assoc,
            run_readPrioritySlots_succ encoded,
            run_bind_of_ok
              (inductionHypothesis areEncoded
                (Nat.le_of_succ_le_succ enough))]
          rfl

/-- Fewer slots than are asked for are refused. -/
theorem run_readPrioritySlots_refused
    {sent : List BacnetValue}
    {values : List (List UInt8)}
    (encodes : EncodesEach id sent values)
    {slots : Nat}
    (few : sent.length < slots)
    (rest : List UInt8) :
    (readPrioritySlots slots).run (values.flatten ++ 0x3F :: rest) =
      .error .rejected := by
  induction slots generalizing sent values with
  | zero => exact absurd few (Nat.not_lt_zero _)
  | succ slots inductionHypothesis =>
      cases encodes with
      | nil => rfl
      | @cons value octets others remaining encoded areEncoded =>
          rw [List.flatten_cons, List.append_assoc,
            run_readPrioritySlots_succ encoded]
          exact run_bind_of_error
            (inductionHypothesis areEncoded (Nat.lt_of_succ_lt_succ few)) _

/-- What the decoder of a priority array does behind the reference. -/
def readClosedSlots : Reader (List BacnetValue) := do
  let slots ← readPrioritySlots 16
  expect 0x3F
  atEnd
  return slots

/-- Exactly sixteen slots are accepted in front of the closing bracket. -/
theorem run_readClosedSlots_iff
    {sent : List BacnetValue}
    {values : List (List UInt8)}
    (encodes : EncodesEach id sent values)
    {slots : List BacnetValue} :
    parse? readClosedSlots (values.flatten ++ [0x3F]) = some slots ↔
      sent.length = 16 ∧ slots = sent.map receivedValue := by
  rw [parse?, readClosedSlots]
  obtain few | enough := Nat.lt_or_ge sent.length 16
  · rw [run_bind_of_error (run_readPrioritySlots_refused encodes few [])]
    refine iff_of_false ?_ fun both => few.ne both.1
    intro read
    cases read
  · have read := run_readPrioritySlots encodes enough [0x3F]
    rw [run_bind_of_ok read]
    have behind : EncodesEach id (sent.drop 16) (values.drop 16) :=
      List.forall₂_drop 16 encodes
    have whole : sent.length = 16 ↔ sent.drop 16 = [] := by
      rw [List.drop_eq_nil_iff]
      omega
    rw [whole]
    cases shape : sent.drop 16 with
    | nil =>
        rw [shape] at behind
        have exactly := whole.mpr shape
        rw [← exactly, List.take_length, exactly]
        cases remaining : values.drop 16 with
        | nil =>
            change some (sent.map receivedValue) = some slots ↔ _
            rw [Option.some.injEq, and_iff_right rfl, eq_comm]
        | cons octets others =>
            rw [remaining] at behind
            cases behind
    | cons value others =>
        rw [shape] at behind
        refine iff_of_false ?_ fun both => List.cons_ne_nil _ _ both.1
        cases remaining : values.drop 16 with
        | nil =>
            rw [remaining] at behind
            cases behind
        | cons octets others =>
            rw [remaining] at behind
            cases behind with
            | cons encoded _ =>
                obtain ⟨first, tail, rfl, opened⟩ :=
                  applicationOctets_open encoded
                rw [List.flatten_cons, List.append_assoc, List.cons_append,
                  run_bind_of_error (run_expect_other opened _)]
                intro read
                cases read

/-- All sixteen slots are received, and nothing but sixteen slots. -/
theorem received_slots_iff
    {request : BacnetReadPropertyRequestHeader}
    {values : List (List UInt8)}
    (short : (readAckPacket request values).length ≤ 0xFFFF)
    {sent : List BacnetValue}
    (encodes : EncodesEach id sent values)
    (answers : (AckContent.slots sent).Answers request.request) :
    (AckContent.slots sent).Received request
        (readAckPacket request values) ↔
      (AckContent.slots sent).Readable request.request := by
  obtain ⟨whole, named⟩ := answers
  have noIndex : optionalIndex 2 request.request.arrayIndex = [] := by
    rw [whole]
    rfl
  have parsed :
      parseReadPriorityArrayAck (readAckPacket request values)
          request.invokeId request.request =
        parse? readClosedSlots (values.flatten ++ [0x3F]) := by
    rw [parseReadPriorityArrayAck, if_pos ⟨named, whole⟩, parse?,
      run_bind_of_ok (run_readPropertyAckHeader short), readAckBody,
      run_bind_of_ok (run_readAcknowledgedProperty _ _), noIndex,
      List.nil_append, run_bind_of_ok (run_expect_cons _ _)]
    rfl
  unfold AckContent.Received AckContent.Readable
  simp only [parsed, run_readClosedSlots_iff encodes]
  constructor
  · rintro ⟨_, ⟨sixteen, _⟩, _⟩
    exact sixteen
  · intro sixteen
    refine ⟨_, ⟨sixteen, rfl⟩, ?_⟩
    rw [List.forall₂_map_left_iff, List.forall₂_same]
    intro value member
    obtain ⟨octets, encoded⟩ := encodes.octets_of_mem member
    exact receivedValue_same encoded

namespace ReadAckCall

/--
Whatever a builder acknowledges, the client's parser for the request accepts
the packet and returns exactly the content where the client has a place for
it, and nowhere else.
-/
theorem received_iff
    {call : ReadAckCall}
    {bufferSize : Nat}
    {request : BacnetReadPropertyRequestHeader}
    {packet : List UInt8}
    (built : call.build bufferSize request = some packet) :
    ∃ content,
      call.content? request.request = some content ∧
        (content.Received request packet ↔
          content.Readable request.request) := by
  obtain ⟨content, values, found, encodes, answers, rfl, short⟩ :=
    packet_of_build built
  refine ⟨content, found, ?_⟩
  cases content with
  | value sent => exact received_value_iff short encodes
  | slots sent => exact received_slots_iff short encodes answers
  | texts sent => exact received_texts_iff short encodes answers
  | objects sent => exact received_objects_iff short encodes answers
  | properties sent => exact received_properties_iff short encodes answers
  | nothing => exact received_nothing_iff short encodes answers

/-- A read of the whole State_Text of a multi-state value. -/
def stateTextRequest : BacnetReadPropertyRequestHeader where
  invokeId := 9
  request := {
    object := ⟨19, 2020⟩
    property := .stateText
    arrayIndex := kBacnetNoArrayIndex
  }

/-- State_Text with a single text is received as that text. -/
theorem received_iff_singleText :
    ∃ packet content,
      (characterStringList [some (asciiBytes "On")] 1).build 64
          stateTextRequest = some packet ∧
        (characterStringList [some (asciiBytes "On")] 1).content?
          stateTextRequest.request = some content ∧
        content.Received stateTextRequest packet := by
  obtain ⟨packet, built⟩ :
      ∃ packet,
        (characterStringList [some (asciiBytes "On")] 1).build 64
          stateTextRequest = some packet :=
    ⟨_, rfl⟩
  obtain ⟨content, found, received⟩ := received_iff built
  obtain rfl : AckContent.texts [asciiBytes "On"] = content :=
    Option.some.inj found
  exact ⟨packet, _, built, found, received.mpr rfl⟩

/-- State_Text with two texts is acknowledged, and the client refuses it. -/
theorem not_received_twoTexts :
    ∃ packet content,
      (characterStringList
          [some (asciiBytes "Off"), some (asciiBytes "On")] 2).build 64
          stateTextRequest = some packet ∧
        (characterStringList
            [some (asciiBytes "Off"), some (asciiBytes "On")] 2).content?
          stateTextRequest.request = some content ∧
        (parseReadPropertyAck packet 9 stateTextRequest.request).1 = false ∧
        ¬content.Received stateTextRequest packet := by
  have built :
      (characterStringList
          [some (asciiBytes "Off"), some (asciiBytes "On")] 2).build 64
          stateTextRequest =
        some [0x81, 0x0A, 0x00, 0x1B, 0x01, 0x00, 0x30, 9, 0x0C,
          0x0C, 0x04, 0xC0, 0x07, 0xE4, 0x19, 110, 0x3E,
          0x74, 0x00, 0x4F, 0x66, 0x66, 0x73, 0x00, 0x4F, 0x6E, 0x3F] := by
    decide
  refine ⟨_, .texts [asciiBytes "Off", asciiBytes "On"], built, rfl,
    by decide, ?_⟩
  rintro ⟨decoded, _, _, isText⟩
  exact List.cons_ne_nil _ _ (List.cons.inj isText).2.symm

end ReadAckCall

end BacnetStack
