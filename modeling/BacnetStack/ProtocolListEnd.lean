import BacnetStack.ProtocolAckCodec
import BacnetStack.ProtocolReaderPrefix

namespace BacnetStack

/-!
# Where a list of identifiers ends

A whole Object_List is decoded into one text.  The loop stops where the text
does not fit, and the closing tag is checked wherever the loop stopped: a
list whose last entry is the one that does not fit is closed all the same.
-/

open Reader

/-- Every value the reader returns has the property. -/
def Yields {α : Type}
    (reader : Reader α)
    (property : α → Prop) : Prop :=
  ∀ packet value rest,
    reader.run packet = .ok (value, rest) → property value

section Yields

variable {α β : Type} {property : β → Prop}

theorem yields_pure
    {value : β}
    (holds : property value) :
    Yields (pure value) property := by
  rintro packet _ _ ⟨⟩
  exact holds

/-- Only the last reader of a sequence matters. -/
theorem yields_bind
    {reader : Reader α}
    {continuation : α → Reader β}
    (yields : ∀ value, Yields (continuation value) property) :
    Yields (reader >>= continuation) property := by
  intro packet value rest read
  obtain ⟨middle, unread, _, read⟩ := run_bind_eq_ok_iff.mp read
  exact yields middle unread value rest read

end Yields

/-- The identifiers a packet lists in front of the closing tag. -/
inductive Lists : List BacnetObjectId → List UInt8 → Prop where
  | closed (rest : List UInt8) : Lists [] (0x3F :: rest)
  | entry
      {packet rest : List UInt8}
      {identifier : UInt32}
      {objects : List BacnetObjectId}
      (read :
        (readApplicationValue 12).run packet = .ok (identifier, rest))
      (others : Lists objects rest) :
      Lists (decodeObjectId identifier :: objects) packet

/-- The text of a list of identifiers. -/
def objectListText (objects : List BacnetObjectId) : List UInt8 :=
  listText (objects.map objectIdText)

/-- The text of a list, terminator included, fits the buffer of a value. -/
def Fits (objects : List BacnetObjectId) : Prop :=
  (objectListText objects).length < kMaxTextLength

/-- An identifier does not start with the closing tag. -/
theorem head_ne_closing
    {packet rest : List UInt8}
    {identifier : UInt32}
    (read :
      (readApplicationValue 12).run packet = .ok (identifier, rest)) :
    ∃ first others,
      packet = first :: others ∧ first ≠ 0x3F ∧ first >>> 4 = 12 := by
  cases packet with
  | nil => cases read
  | cons first others =>
      have tagged : first >>> 4 = 12 := by
        rw [readApplicationValue, run_bind_of_ok (run_checkedNext_cons _ _)]
          at read
        dsimp only at read
        rw [run_bind_of_ok (run_remaining _), run_bind_eq_ok_iff] at read
        obtain ⟨_, _, checked, _⟩ := read
        obtain ⟨passed, _⟩ := run_require_eq_ok_iff.mp checked
        simp only [Bool.and_eq_true, beq_iff_eq] at passed
        exact passed.1.1.1.2
      refine ⟨first, others, rfl, ?_, tagged⟩
      rintro rfl
      exact absurd tagged (by decide)

namespace Lists

variable {objects : List BacnetObjectId} {packet : List UInt8}

/-- A packet lists one list at most. -/
theorem unique
    (lists : Lists objects packet)
    {others : List BacnetObjectId}
    (listsOthers : Lists others packet) :
    objects = others := by
  induction lists generalizing others with
  | closed rest =>
      cases listsOthers with
      | closed => rfl
      | entry read =>
          obtain ⟨_, _, shape, opened, _⟩ := head_ne_closing read
          exact absurd (List.cons.inj shape).1.symm opened
  | entry read _ inductionHypothesis =>
      cases listsOthers with
      | closed =>
          obtain ⟨_, _, shape, opened, _⟩ := head_ne_closing read
          exact absurd (List.cons.inj shape).1.symm opened
      | entry readOther lists =>
          rw [read] at readOther
          cases readOther
          rw [inductionHypothesis lists]

/-- Every entry takes octets. -/
theorem length_le (lists : Lists objects packet) :
    objects.length ≤ packet.length := by
  induction lists with
  | closed => exact Nat.zero_le _
  | entry read _ inductionHypothesis =>
      have shorter := (takes_readApplicationValue 12).length_le read
      rw [List.length_cons]
      omega

/-- The closing tag comes first where nothing is listed. -/
theorem head_eq_closing_iff (lists : Lists objects packet) :
    packet.head? = some 0x3F ↔ objects = [] := by
  cases lists with
  | closed => exact iff_of_true rfl rfl
  | entry read =>
      obtain ⟨first, _, rfl, opened, _⟩ := head_ne_closing read
      refine iff_of_false ?_ (List.cons_ne_nil _ _)
      exact fun closing => opened (Option.some.inj closing)

end Lists

/-- An appended text extends what is there. -/
theorem eq_of_appendText
    {capacity : Nat}
    {used text longer : List UInt8}
    (appended : appendText capacity used text = some longer) :
    longer = used ++ text := by
  unfold appendText at appended
  split at appended
  · cases appended
  · exact (Option.some.inj appended).symm

/-- An identifier that was appended is there with its separator. -/
theorem eq_of_appendObjectId
    {used text : List UInt8}
    {object : BacnetObjectId}
    (appended : appendObjectId used object = (text, true)) :
    text = withEntry used (objectIdText object) := by
  unfold appendObjectId at appended
  dsimp only at appended
  split at appended
  · cases appended
  rename_i separated separator
  split at appended
  · cases appended
  rename_i typed typeFits
  split at appended
  · cases appended
  rename_i punctuated commaFits
  split at appended
  · cases appended
  rename_i whole instanceFits
  obtain rfl := (Prod.mk.inj appended).1
  obtain rfl := eq_of_appendText instanceFits
  obtain rfl := eq_of_appendText commaFits
  obtain rfl := eq_of_appendText typeFits
  unfold withEntry
  cases used with
  | nil =>
      obtain rfl := Option.some.inj separator
      simp only [objectIdText, List.nil_append, List.append_assoc,
        List.isEmpty_nil, if_true]
  | cons first others =>
      obtain rfl := eq_of_appendText separator
      simp only [objectIdText, List.append_assoc, List.isEmpty_cons,
        Bool.false_eq_true, if_false]

/-- What is there stays, whatever is appended of an identifier. -/
theorem length_le_appendObjectId
    (used : List UInt8)
    (object : BacnetObjectId) :
    used.length ≤ (appendObjectId used object).1.length := by
  have grows {capacity : Nat} {before text after : List UInt8}
      (appended : appendText capacity before text = some after) :
      before.length ≤ after.length := by
    rw [eq_of_appendText appended, List.length_append]
    exact Nat.le_add_right _ _
  unfold appendObjectId
  dsimp only
  split
  · exact le_rfl
  rename_i separated separator
  have first : used.length ≤ separated.length := by
    split at separator
    · rw [Option.some.inj separator]
    · exact grows separator
  split
  · exact first
  rename_i typed typeFits
  split
  · exact first.trans (grows typeFits)
  rename_i punctuated commaFits
  split
  · exact (first.trans (grows typeFits)).trans (grows commaFits)
  rename_i whole instanceFits
  exact ((first.trans (grows typeFits)).trans (grows commaFits)).trans
    (grows instanceFits)

/-- One identifier fits. -/
theorem objectIdText_fits
    (object : BacnetObjectId) :
    (objectIdText object).length < kMaxTextLength := by
  have typeDigits := length_unsignedDecimal_le object.type.toUInt32
  have instanceDigits := length_unsignedDecimal_le object.instance_
  have comma : (asciiBytes ",").length = 1 := by decide
  rw [objectIdText, List.length_append, List.length_append, comma]
  change _ < 512
  omega

/-- An identifier that does not fit ends the loop. -/
theorem appendObjectId_of_overflow
    {used : List UInt8}
    (usedFits : used.length < kMaxTextLength)
    {object : BacnetObjectId}
    (overflows :
      ¬(withEntry used (objectIdText object)).length < kMaxTextLength) :
    ∃ text, appendObjectId used object = (text, false) ∧ text ≠ [] := by
  have kept := length_of_appendObjectId usedFits object
  have longer := length_le_appendObjectId used object
  cases appended : appendObjectId used object with
  | mk text succeeded =>
      rw [appended] at kept longer
      cases succeeded with
      | true =>
          rw [← eq_of_appendObjectId appended] at overflows
          exact absurd kept overflows
      | false =>
          refine ⟨text, rfl, ?_⟩
          rintro rfl
          obtain rfl := List.length_eq_zero_iff.mp (Nat.le_zero.mp longer)
          exact overflows (objectIdText_fits object)

/-- A list that fits is read up to its closing tag. -/
theorem Lists.run_of_fits
    {objects : List BacnetObjectId}
    {packet : List UInt8}
    (lists : Lists objects packet)
    {rounds : Nat}
    (enough : objects.length ≤ rounds)
    {used : List UInt8}
    (fits :
      (withEntries used (objects.map objectIdText)).length <
        kMaxTextLength) :
    ∃ rest,
      (objectIdentifierListText rounds used).run packet =
        .ok (withEntries used (objects.map objectIdText),
          0x3F :: rest) := by
  induction lists generalizing rounds used with
  | closed rest =>
      cases rounds <;> exact ⟨rest, rfl⟩
  | entry read _ inductionHypothesis =>
      obtain ⟨rounds, rfl⟩ : ∃ others, rounds = others + 1 :=
        ⟨rounds - 1, by rw [List.length_cons] at enough; omega⟩
      obtain ⟨first, others, rfl, opened, _⟩ := head_ne_closing read
      rw [List.map_cons, withEntries] at fits ⊢
      rw [run_objectIdentifierListText_succ opened read,
        appendObjectId_of_fits
          (lt_of_le_of_lt (length_le_withEntries _ _) fits)]
      exact inductionHypothesis (Nat.le_of_succ_le_succ enough) fits

/--
A list that does not fit stops the loop at the entry that does not.  The
closing tag follows where that was the last one.
-/
theorem Lists.run_of_overflow
    {objects : List BacnetObjectId}
    {packet : List UInt8}
    (lists : Lists objects packet)
    {rounds : Nat}
    (enough : objects.length ≤ rounds)
    {used : List UInt8}
    (usedFits : used.length < kMaxTextLength)
    (overflows :
      ¬(withEntries used (objects.map objectIdText)).length <
        kMaxTextLength) :
    ∃ text rest,
      (objectIdentifierListText rounds used).run packet =
          .ok (text, rest) ∧
        text ≠ [] ∧
        (rest.head? = some 0x3F ↔
          (withEntries used (objects.dropLast.map objectIdText)).length <
            kMaxTextLength) := by
  induction lists generalizing rounds used with
  | closed => exact absurd usedFits overflows
  | @entry packet rest identifier objects read others
      inductionHypothesis =>
      obtain ⟨rounds, rfl⟩ : ∃ others, rounds = others + 1 :=
        ⟨rounds - 1, by rw [List.length_cons] at enough; omega⟩
      obtain ⟨first, _, rfl, opened, _⟩ := head_ne_closing read
      rw [List.map_cons, withEntries] at overflows
      rw [run_objectIdentifierListText_succ opened read]
      by_cases entryFits :
          (withEntry used (objectIdText (decodeObjectId identifier))).length
            < kMaxTextLength
      · have more : objects ≠ [] := by
          rintro rfl
          exact overflows entryFits
        rw [appendObjectId_of_fits entryFits,
          List.dropLast_cons_of_ne_nil more, List.map_cons, withEntries]
        exact inductionHypothesis (Nat.le_of_succ_le_succ enough)
          entryFits overflows
      · obtain ⟨text, stopped, written⟩ :=
          appendObjectId_of_overflow usedFits entryFits
        rw [stopped]
        refine ⟨text, rest, rfl, written,
          others.head_eq_closing_iff.trans ?_⟩
        cases objects with
        | nil => exact iff_of_true rfl usedFits
        | cons second later =>
            refine iff_of_false (List.cons_ne_nil _ _) ?_
            rw [List.dropLast_cons_of_ne_nil (List.cons_ne_nil _ _),
              List.map_cons, withEntries]
            exact fun fits =>
              entryFits
                (lt_of_le_of_lt (length_le_withEntries _ _) fits)

/-- Where the loop stops in front of a closing tag, there is a list. -/
theorem lists_of_run
    {rounds : Nat}
    {used text packet rest : List UInt8}
    (read :
      (objectIdentifierListText rounds used).run packet =
        .ok (text, rest))
    (closed : rest.head? = some 0x3F) :
    ∃ objects, Lists objects packet := by
  have listsNone {octets : List UInt8} (closing : octets.head? = some 0x3F) :
      Lists [] octets := by
    obtain ⟨others, rfl⟩ := List.head?_eq_some_iff.mp closing
    exact .closed others
  induction rounds generalizing used packet with
  | zero =>
      cases read
      exact ⟨[], listsNone closed⟩
  | succ rounds inductionHypothesis =>
      cases packet with
      | nil =>
          cases read
          cases closed
      | cons first others =>
          by_cases closing : first = 0x3F
          · exact ⟨[], listsNone (congrArg some closing)⟩
          cases readEntry : (readApplicationValue 12).run (first :: others) with
          | error fault =>
              have more : (first != 0x3F) = true := bne_iff_ne.mpr closing
              rw [objectIdentifierListText,
                run_bind_of_ok (run_hasMore _)] at read
              change (peek >>= _).run _ = _ at read
              rw [run_bind_of_ok (run_peek_cons _ _), more] at read
              change (readApplicationValue 12 >>= _).run _ = _ at read
              rw [StateT.run_bind, readEntry] at read
              cases read
          | ok outcome =>
              obtain ⟨identifier, behind⟩ := outcome
              rw [run_objectIdentifierListText_succ closing readEntry]
                at read
              split at read
              · obtain ⟨objects, lists⟩ := inductionHypothesis read
                exact ⟨_, .entry readEntry lists⟩
              · cases read
                exact ⟨_, .entry readEntry (listsNone closed)⟩

/-! The list form among the values of a property. -/

/-- An unsigned or enumerated value is not a list of identifiers. -/
theorem type_ne_list_of_unsigned
    (tag : UInt8) :
    Yields (parseApplicationUnsigned tag)
      (·.type ≠ .objectIdentifierList) := by
  refine yields_bind fun _ => yields_pure ?_
  unfold copyTextValue
  dsimp only
  split <;> exact nofun

/-- One identifier is not a list of identifiers. -/
theorem type_ne_list_of_identifier :
    Yields parseApplicationObjectIdentifier
      (·.type ≠ .objectIdentifierList) :=
  yields_bind fun _ => yields_pure nofun

/-- Of the values with a tag of their own none is a list of identifiers. -/
theorem type_ne_list_of_tagged :
    Yields parseTaggedApplicationValue
      (·.type ≠ .objectIdentifierList) := by
  refine yields_bind fun tag => ?_
  dsimp only
  split
  · exact yields_bind fun _ => yields_bind fun _ => yields_pure nofun
  split
  · exact yields_bind fun _ => yields_bind fun _ => yields_pure nofun
  split
  · exact type_ne_list_of_unsigned 2
  split
  · exact yields_bind fun _ => yields_bind fun _ => yields_bind fun _ =>
      yields_bind fun _ => yields_pure nofun
  split
  · exact yields_bind fun _ => yields_bind fun _ => yields_bind fun _ =>
      yields_pure nofun
  split
  · exact yields_bind fun _ => yields_bind fun _ => yields_bind fun _ =>
      yields_bind fun _ => yields_pure nofun
  split
  · exact yields_bind fun _ => yields_bind fun _ => yields_bind fun _ =>
      yields_bind fun _ => yields_bind fun _ => yields_bind fun _ =>
        yields_pure nofun
  split
  · exact type_ne_list_of_unsigned 9
  split
  · exact type_ne_list_of_identifier
  · exact yields_bind fun _ => yields_bind fun _ => yields_bind fun _ =>
      yields_bind fun _ => yields_bind fun _ => yields_bind fun _ =>
        yields_bind fun _ => yields_pure nofun

/-- A list of identifiers is read from a whole Object_List only. -/
theorem listParser_of_type
    {property : BacnetPropertyId}
    {arrayIndex : UInt32}
    {packet rest : List UInt8}
    {value : BacnetValue}
    (read :
      (parseReadPropertyApplicationValue property arrayIndex).run packet =
        .ok (value, rest))
    (list : value.type = .objectIdentifierList) :
    property = .objectList ∧ arrayIndex = kBacnetNoArrayIndex ∧
      parseApplicationObjectIdentifierList.run packet =
        .ok (value, rest) := by
  cases packet with
  | nil => cases read
  | cons first others =>
      rw [run_parseReadPropertyApplicationValue_cons] at read
      split at read
      · exact absurd list (type_ne_list_of_unsigned 2 _ _ _ read)
      split at read
      · rename_i identifier
        split at read
        · exact absurd list (type_ne_list_of_identifier _ _ _ read)
        · rename_i whole
          exact ⟨identifier.1, not_not.mp whole, read⟩
      split at read
      · obtain ⟨text, _, _, rfl⟩ :=
          run_parseApplicationPropertyIdentifierList_iff.mp read
        cases list
      split at read
      · cases read
        cases list
      · exact absurd list (type_ne_list_of_tagged _ _ _ read)

/-- The reference of an acknowledgement, and the tag behind it. -/
def readPropertyAckReference
    (expectedInvokeId : UInt8)
    (expectedRequest : BacnetPropertyRequest) : Reader UInt32 := do
  readPropertyAckHeader expectedInvokeId
  readAcknowledgedProperty expectedRequest
  let responseArrayIndex ←
    readResponseArrayIndex expectedRequest.arrayIndex
  expect 0x3E
  return responseArrayIndex

/-- The reference of an acknowledgement of any object. -/
def readPropertyAckReferenceOf
    (expectedInvokeId : UInt8)
    (expectedProperty : BacnetPropertyId) : Reader UInt32 := do
  readPropertyAckHeader expectedInvokeId
  let _objectIdentifier ← readContextValue 0
  let propertyIdentifier ← readContextValue 1
  require (propertyIdentifier == expectedProperty.raw)
  let responseArrayIndex ← readOptionalContextValue 2 kBacnetNoArrayIndex
  expect 0x3E
  return responseArrayIndex

/-- An accepted value: behind the reference and in front of the tag. -/
def Accepts
    (reference : Reader UInt32)
    (property : BacnetPropertyId)
    (packet : List UInt8)
    (value : BacnetValue) : Prop :=
  ∃ arrayIndex body rest,
    reference.run packet = .ok (arrayIndex, body) ∧
      (parseReadPropertyApplicationValue property arrayIndex).run body =
          .ok (value, rest) ∧
        rest.head? = some 0x3F

/-- The identifiers of a whole Object_List behind a reference. -/
def AcknowledgesList
    (reference : Reader UInt32)
    (property : BacnetPropertyId)
    (packet : List UInt8)
    (objects : List BacnetObjectId) : Prop :=
  property = .objectList ∧
    ∃ body,
      reference.run packet = .ok (kBacnetNoArrayIndex, body) ∧
        Lists objects body

/-- A reader with its closing tag, as the decoders use it. -/
theorem accepts_iff
    {reference : Reader UInt32}
    {property : BacnetPropertyId}
    {packet : List UInt8}
    {value : BacnetValue} :
    Accepts reference property packet value ↔
      ∃ rest,
        (reference >>= parseReadPropertyApplicationValue property).run
            packet = .ok (value, rest) ∧
          rest.head? = some 0x3F := by
  constructor
  · rintro ⟨arrayIndex, body, rest, references, read, closed⟩
    exact ⟨rest, (run_bind_of_ok references _).trans read, closed⟩
  · rintro ⟨rest, read, closed⟩
    obtain ⟨arrayIndex, body, references, read⟩ :=
      run_bind_eq_ok_iff.mp read
    exact ⟨arrayIndex, body, rest, references, read, closed⟩

theorem parseReadPropertyAck_accepts
    {packet : List UInt8}
    {invokeId : UInt8}
    {request : BacnetPropertyRequest}
    {value : BacnetValue} :
    parseReadPropertyAck packet invokeId request = (true, value) ↔
      Accepts (readPropertyAckReference invokeId request) request.property
        packet value := by
  have sequence :
      readPropertyAckReader invokeId request =
        readPropertyAckReference invokeId request >>=
          parseReadPropertyApplicationValue request.property := by
    simp only [readPropertyAckReader, readPropertyAckReference, bind_assoc,
      pure_bind]
  rw [accepts_iff, ← sequence]
  exact parseReadPropertyAck_eq_true_iff

theorem parseReadPropertyAckOf_accepts
    {packet : List UInt8}
    {invokeId : UInt8}
    {property : BacnetPropertyId}
    {value : BacnetValue} :
    parseReadPropertyAckOf packet invokeId property = (true, value) ↔
      Accepts (readPropertyAckReferenceOf invokeId property) property
        packet value := by
  have sequence :
      readPropertyAckReaderOf invokeId property =
        readPropertyAckReferenceOf invokeId property >>=
          parseReadPropertyApplicationValue property := by
    simp only [readPropertyAckReaderOf, readPropertyAckReferenceOf,
      bind_assoc, pure_bind]
  rw [accepts_iff, ← sequence]
  unfold parseReadPropertyAckOf
  cases (readPropertyAckReaderOf invokeId property).run packet with
  | error fault => simp
  | ok outcome =>
      obtain ⟨value, rest⟩ := outcome
      simp only [Prod.mk.injEq, beq_iff_eq, Except.ok.injEq]
      constructor
      · rintro ⟨closed, rfl⟩
        exact ⟨rest, ⟨rfl, rfl⟩, closed⟩
      · rintro ⟨_, ⟨rfl, rfl⟩, closed⟩
        exact ⟨closed, rfl⟩

/-- The loop writes the text of the list. -/
theorem withEntries_objects
    (objects : List BacnetObjectId) :
    withEntries [] (objects.map objectIdText) = objectListText objects := by
  refine withEntries_nil fun entry isEntry => ?_
  obtain ⟨object, _, rfl⟩ := List.mem_map.mp isEntry
  exact objectIdText_ne_nil object

section Acknowledged

variable {reference : Reader UInt32} {property : BacnetPropertyId}
  {packet : List UInt8} {value : BacnetValue}
  {objects : List BacnetObjectId}

/-- An accepted list is one that is acknowledged. -/
theorem Accepts.acknowledgesList
    (accepts : Accepts reference property packet value)
    (list : value.type = .objectIdentifierList) :
    ∃ objects, AcknowledgesList reference property packet objects := by
  obtain ⟨arrayIndex, body, rest, references, read, closed⟩ := accepts
  obtain ⟨rfl, rfl, readList⟩ := listParser_of_type read list
  obtain ⟨_, readText, _, _⟩ :=
    run_parseApplicationObjectIdentifierList_iff.mp readList
  obtain ⟨objects, lists⟩ := lists_of_run readText closed
  exact ⟨objects, rfl, body, references, lists⟩

/-- There is one list in an acknowledgement. -/
theorem AcknowledgesList.unique
    (acknowledges : AcknowledgesList reference property packet objects)
    {others : List BacnetObjectId}
    (another : AcknowledgesList reference property packet others) :
    objects = others := by
  obtain ⟨_, body, references, lists⟩ := acknowledges
  obtain ⟨_, body', references', lists'⟩ := another
  rw [references] at references'
  cases references'
  exact lists.unique lists'

/-- A list that fits is returned as a whole. -/
theorem AcknowledgesList.text_of_fits
    (acknowledges : AcknowledgesList reference property packet objects)
    (fits : Fits objects)
    (accepts : Accepts reference property packet value)
    (list : value.type = .objectIdentifierList) :
    value.text = objectListText objects := by
  obtain ⟨_, body, references, lists⟩ := acknowledges
  obtain ⟨arrayIndex, body', rest, references', read, closed⟩ := accepts
  rw [references] at references'
  cases references'
  obtain ⟨_, _, readList⟩ := listParser_of_type read list
  obtain ⟨text, readText, _, rfl⟩ :=
    run_parseApplicationObjectIdentifierList_iff.mp readList
  rw [Fits, ← withEntries_objects] at fits
  obtain ⟨_, whole⟩ := lists.run_of_fits lists.length_le fits
  rw [whole] at readText
  cases readText
  exact withEntries_objects objects

/--
A list that does not fit is accepted where the entries in front of the last
one do.
-/
theorem AcknowledgesList.accepts_iff_of_overflow
    (acknowledges : AcknowledgesList reference property packet objects)
    (overflows : ¬Fits objects) :
    (∃ value, Accepts reference property packet value) ↔
      Fits objects.dropLast := by
  obtain ⟨rfl, body, references, lists⟩ := acknowledges
  rw [Fits, ← withEntries_objects] at overflows
  rw [Fits, ← withEntries_objects]
  obtain ⟨text, rest, stopped, written, closed_iff⟩ :=
    lists.run_of_overflow lists.length_le (by decide) overflows
  have whole :
      (parseReadPropertyApplicationValue .objectList
          kBacnetNoArrayIndex).run body =
        parseApplicationObjectIdentifierList.run body := by
    cases lists with
    | closed => exact absurd (by decide) overflows
    | entry read =>
        obtain ⟨first, _, rfl, _, tagged⟩ := head_ne_closing read
        exact run_wholeObjectList tagged _
  rw [← closed_iff]
  constructor
  · rintro ⟨value, arrayIndex, body', rest', references', read, closed⟩
    rw [references] at references'
    cases references'
    rw [whole] at read
    obtain ⟨_, readText, _, _⟩ :=
      run_parseApplicationObjectIdentifierList_iff.mp read
    rw [stopped] at readText
    cases readText
    exact closed
  · intro closed
    have read := run_parseApplicationObjectIdentifierList_iff.mpr
      ⟨text, stopped, written, rfl⟩
    exact ⟨_, _, body, rest, references, whole.trans read, closed⟩

end Acknowledged

/--
A list of identifiers is returned as its whole text, and one whose text does
not fit is refused.
-/
structure ReturnsWholeList
    (outcome : Bool × BacnetValue)
    (acknowledged : List BacnetObjectId → Prop) : Prop where
  complete :
    outcome.1 = true → outcome.2.type = .objectIdentifierList →
      ∃ objects,
        acknowledged objects ∧
          outcome.2.text = objectListText objects
  refuses :
    ∀ objects, acknowledged objects → ¬Fits objects → outcome.1 = false

/-- The text fits, or does not even without the last entry. -/
def FitsOrStopsEarly (objects : List BacnetObjectId) : Prop :=
  Fits objects ∨ ¬Fits objects.dropLast

/-- The entry that does not fit must not be the last one. -/
theorem returnsWholeList_of_accepts
    {outcome : Bool × BacnetValue}
    {reference : Reader UInt32}
    {property : BacnetPropertyId}
    {packet : List UInt8}
    (accepts_iff :
      ∀ value,
        outcome = (true, value) ↔
          Accepts reference property packet value) :
    ReturnsWholeList outcome
        (AcknowledgesList reference property packet) ↔
      ∀ objects, AcknowledgesList reference property packet objects →
        FitsOrStopsEarly objects := by
  have accepted_iff :
      outcome.1 = true ↔
        ∃ value, Accepts reference property packet value := by
    refine Iff.trans ?_ (exists_congr accepts_iff)
    exact ⟨fun isTrue => ⟨outcome.2, Prod.ext isTrue rfl⟩,
      fun ⟨_, equal⟩ => congrArg Prod.fst equal⟩
  constructor
  · intro returns objects acknowledges
    by_cases fits : Fits objects
    · exact Or.inl fits
    · refine Or.inr fun frontFits => ?_
      have refused := returns.refuses objects acknowledges fits
      have accepted := accepted_iff.mpr
        ((acknowledges.accepts_iff_of_overflow fits).mpr frontFits)
      rw [refused] at accepted
      cases accepted
  · intro condition
    constructor
    · intro accepted list
      have accepts := (accepts_iff outcome.2).mp (Prod.ext accepted rfl)
      obtain ⟨objects, acknowledges⟩ := accepts.acknowledgesList list
      refine ⟨objects, acknowledges, ?_⟩
      obtain fits | frontOverflows := condition objects acknowledges
      · exact acknowledges.text_of_fits fits accepts list
      · by_cases fits : Fits objects
        · exact acknowledges.text_of_fits fits accepts list
        · exact absurd
            ((acknowledges.accepts_iff_of_overflow fits).mp ⟨_, accepts⟩)
            frontOverflows
    · intro objects acknowledges overflows
      rw [Bool.eq_false_iff, Ne, accepted_iff,
        acknowledges.accepts_iff_of_overflow overflows]
      exact (condition objects acknowledges).resolve_left overflows

/--
Both decoders of an acknowledgement return whole lists or refuse them,
exactly where a list that does not fit stops in front of its last entry.
-/
theorem returnsWholeList_iff
    (packet : List UInt8)
    (invokeId : UInt8) :
    (∀ request : BacnetPropertyRequest,
      ReturnsWholeList (parseReadPropertyAck packet invokeId request)
          (AcknowledgesList (readPropertyAckReference invokeId request)
            request.property packet) ↔
        ∀ objects,
          AcknowledgesList (readPropertyAckReference invokeId request)
              request.property packet objects →
            FitsOrStopsEarly objects) ∧
      ∀ property : BacnetPropertyId,
        ReturnsWholeList (parseReadPropertyAckOf packet invokeId property)
            (AcknowledgesList (readPropertyAckReferenceOf invokeId property)
              property packet) ↔
          ∀ objects,
            AcknowledgesList (readPropertyAckReferenceOf invokeId property)
                property packet objects →
              FitsOrStopsEarly objects :=
  ⟨fun _ => returnsWholeList_of_accepts
      fun _ => parseReadPropertyAck_accepts,
    fun _ => returnsWholeList_of_accepts
      fun _ => parseReadPropertyAckOf_accepts⟩

/-- The entry with the longest text. -/
def longestObject : BacnetObjectId :=
  decodeObjectId 0xFFFFFFFF

/-- The octets of that entry. -/
def longestEntry : List UInt8 :=
  [0xC4, 0xFF, 0xFF, 0xFF, 0xFF]

/-- A request for the Object_List of device 1. -/
def objectListRequest : BacnetReadPropertyRequestHeader where
  invokeId := 1
  request :=
    { object := decodeObjectId 0x02000001, property := .objectList }

/-- The acknowledgement of a list of such entries. -/
def longListPacket (count : Nat) : List UInt8 :=
  readAckPacket objectListRequest (List.replicate count longestEntry)

theorem lists_replicate
    (count : Nat)
    (rest : List UInt8) :
    Lists (List.replicate count longestObject)
      ((List.replicate count longestEntry).flatten ++ 0x3F :: rest) := by
  induction count with
  | zero => exact .closed rest
  | succ count inductionHypothesis =>
      rw [List.replicate_succ, List.replicate_succ, List.flatten_cons,
        List.append_assoc]
      exact .entry rfl inductionHypothesis

/-- Every further entry adds its twelve characters and a separator. -/
theorem length_objectListText_replicate
    (count : Nat) :
    (objectListText (List.replicate (count + 1) longestObject)).length =
      13 * count + 12 := by
  have entry : (objectIdText longestObject).length = 12 := by decide
  have separator : (asciiBytes ";").length = 1 := by decide
  rw [objectListText, List.replicate_succ, List.map_cons, listText_cons,
    List.length_append, List.map_replicate, List.map_replicate,
    List.length_flatten, List.map_replicate, List.sum_replicate_nat,
    List.length_append, entry, separator]
  omega

/-- Behind the reference of the acknowledgement are its entries. -/
theorem acknowledgesList_longListPacket
    {count : Nat}
    (short : (longListPacket count).length ≤ 0xFFFF) :
    AcknowledgesList
      (readPropertyAckReference objectListRequest.invokeId
        objectListRequest.request)
      .objectList (longListPacket count)
      (List.replicate count longestObject) := by
  refine ⟨rfl, _, ?_, lists_replicate count []⟩
  rw [longListPacket, readPropertyAckReference,
    run_bind_of_ok (run_readPropertyAckHeader short), readAckBody,
    run_bind_of_ok (run_readAcknowledgedProperty _ _),
    run_bind_of_ok (run_readResponseArrayIndex _ _),
    run_bind_of_ok (run_expect_cons _ _)]
  rfl

/-- The 40th entry does not fit, and the list is accepted without it. -/
theorem not_returnsWholeList_longList :
    ¬∀ packet invokeId request,
      ReturnsWholeList (parseReadPropertyAck packet invokeId request)
        (AcknowledgesList (readPropertyAckReference invokeId request)
          request.property packet) := by
  intro always
  have condition :=
    (returnsWholeList_of_accepts
      fun _ => parseReadPropertyAck_accepts).mp
      (always (longListPacket 40) objectListRequest.invokeId
        objectListRequest.request)
      (List.replicate 40 longestObject)
      (acknowledgesList_longListPacket
        (by
          rw [longListPacket, length_readAckPacket, List.length_flatten,
            List.map_replicate, List.sum_replicate_nat]
          decide))
  rw [FitsOrStopsEarly, List.dropLast_replicate, Fits, Fits,
    length_objectListText_replicate 39,
    length_objectListText_replicate 38] at condition
  revert condition
  decide

end BacnetStack
