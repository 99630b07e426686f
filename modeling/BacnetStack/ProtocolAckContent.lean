import BacnetStack.ProtocolBuilderBounds

namespace BacnetStack

/-!
# What a built acknowledgement carries

Six builders acknowledge a ReadProperty request: with one value, with an
array, its length or one of its entries, or with an empty list.  Whatever the
buffer, a built acknowledgement is its reference and the encoded content
between two brackets, and it is short enough to announce its length.
-/

open PacketWriter

section Built

variable {bufferSize : Nat}

/-- An appended value is an encoded one. -/
theorem octets_of_appendAckValue
    {value : BacnetValue}
    {written octets : List UInt8}
    {outcome : Unit}
    (wrote :
      exec (appendAckValue bufferSize value) written =
        (some outcome, octets)) :
    ∃ encoded,
      applicationOctets value = some encoded ∧
        octets = written ++ encoded := by
  rw [appendAckValue, exec_offset_bind] at wrote
  obtain ⟨encoded, isEncoded, _, rfl⟩ :=
    exec_putApplicationValue_eq_some_iff.mp wrote
  exact ⟨encoded, isEncoded, rfl⟩

/-- Appended entries are encoded ones, in order. -/
theorem octets_of_appendAckEntries
    {valueAt : Nat → Option BacnetValue}
    {indices : List Nat}
    {written octets : List UInt8}
    {outcome : Unit}
    (wrote :
      exec (appendAckEntries bufferSize valueAt indices) written =
        (some outcome, octets)) :
    ∃ values,
      encodedEntries valueAt indices = some values ∧
        octets = written ++ values.flatten := by
  induction indices generalizing written with
  | nil =>
      rw [appendAckEntries, exec_pure] at wrote
      refine ⟨[], rfl, ?_⟩
      rw [List.flatten_nil, List.append_nil]
      exact (Prod.mk.inj wrote).2.symm
  | cons index rest inductionHypothesis =>
      rw [appendAckEntries] at wrote
      rw [encodedEntries_cons]
      cases found : valueAt index with
      | none =>
          rw [found] at wrote
          cases wrote
      | some value =>
          rw [found] at wrote
          obtain ⟨_, middle, first, others⟩ :=
            exec_bind_eq_some_iff.mp wrote
          obtain ⟨encoded, isEncoded, rfl⟩ := octets_of_appendAckValue first
          obtain ⟨values, areEncoded, rfl⟩ := inductionHypothesis others
          refine ⟨encoded :: values, ?_, ?_⟩
          · rw [Option.bind_some, isEncoded, Option.bind_some, areEncoded]
            rfl
          · rw [List.flatten_cons, List.append_assoc]

/-- Storing a length keeps the number of octets. -/
theorem length_readAckPacket
    (request : BacnetReadPropertyRequestHeader)
    (values : List (List UInt8)) :
    (readAckPacket request values).length =
      (readAckPrefix request).length + values.flatten.length + 2 := by
  rw [readAckPacket, List.length_set, List.length_set, List.length_append,
    List.length_append, List.length_append, List.length_singleton,
    List.length_singleton]
  omega

/-- A closed acknowledgement is short enough to announce its length. -/
theorem packet_of_finishReadPropertyAck
    {request : BacnetReadPropertyRequestHeader}
    {values : List (List UInt8)}
    {packet : List UInt8}
    (finished :
      exec (finishReadPropertyAck bufferSize)
          (readAckPrefix request ++ [0x3E] ++ values.flatten) =
        (some (), packet)) :
    packet = readAckPacket request values ∧ packet.length ≤ 0xFFFF := by
  rw [finishReadPropertyAck, exec_offset_bind, exec_require_bind_iff,
    exec_put_bind, exec_offset_bind, exec_require_bind_iff,
    exec_storeLength, decide_eq_true_eq, decide_eq_true_eq] at finished
  obtain ⟨_, short, stored⟩ := finished
  obtain rfl : readAckPacket request values = packet :=
    (Prod.mk.inj stored).2
  refine ⟨rfl, ?_⟩
  rw [readAckPacket, List.length_set, List.length_set]
  exact short

/-- What a builder writes behind the prefix follows the opening bracket. -/
theorem written_of_prefix
    {request : BacnetReadPropertyRequestHeader}
    {rest : PacketWriter Unit}
    {packet : List UInt8}
    (built :
      exec
          (do
            writeReadPropertyAckPrefix bufferSize request
            require (decide ((← offset) + 2 ≤ bufferSize))
            rest) [] =
        (some (), packet)) :
    Addressable request.request.object ∧
      exec rest (readAckPrefix request) = (some (), packet) := by
  obtain ⟨_, _, start, built⟩ := exec_bind_eq_some_iff.mp built
  obtain ⟨_, addressable, wrote⟩ | ⟨_, gaveUp⟩ :=
    exec_writeReadPropertyAckPrefix_cases bufferSize request
  · rw [wrote] at start
    obtain rfl := (Prod.mk.inj start).2
    rw [exec_offset_bind, exec_require_bind_iff] at built
    exact ⟨addressable, built.2⟩
  · rw [gaveUp] at start
    cases start

/-- A built array acknowledgement carries what the read returns. -/
theorem packet_of_buildReadPropertyArrayAck
    {request : BacnetReadPropertyRequestHeader}
    {entryCount : Nat}
    {valueAt : Nat → Option BacnetValue}
    {packet : List UInt8}
    (built :
      buildReadPropertyArrayAck bufferSize request entryCount valueAt =
        some packet) :
    entryCount ≠ 0 ∧ Addressable request.request.object ∧
      ∃ values,
        arrayReadValues request.request entryCount valueAt = some values ∧
          packet = readAckPacket request values ∧
          packet.length ≤ 0xFFFF := by
  rw [buildReadPropertyArrayAck, build_eq_some_iff,
    writeReadPropertyArrayAck, exec_require_bind_iff] at built
  obtain ⟨someEntry, built⟩ := built
  obtain ⟨addressable, built⟩ := written_of_prefix built
  refine ⟨bne_iff_ne.mp someEntry, addressable, ?_⟩
  rw [exec_put_bind] at built
  unfold arrayReadValues
  dsimp only at built
  split at built
  · next whole =>
    rw [if_pos whole]
    obtain ⟨_, _, entries, finished⟩ := exec_bind_eq_some_iff.mp built
    obtain ⟨values, areEncoded, rfl⟩ := octets_of_appendAckEntries entries
    exact ⟨values, areEncoded, packet_of_finishReadPropertyAck finished⟩
  · next indexed =>
    rw [if_neg indexed]
    split at built
    · next length =>
      rw [if_pos length]
      obtain ⟨_, _, count, finished⟩ := exec_bind_eq_some_iff.mp built
      obtain ⟨encoded, isEncoded, rfl⟩ := octets_of_appendAckValue count
      rw [← @List.flatten_singleton _ encoded] at finished
      refine ⟨[encoded], ?_, packet_of_finishReadPropertyAck finished⟩
      rw [encodedEntries_cons, Option.bind_some, isEncoded]
      rfl
    · next entry =>
      rw [exec_require_bind_iff] at built
      obtain ⟨inside, built⟩ := built
      rw [if_neg entry, if_pos (of_decide_eq_true inside)]
      obtain ⟨_, _, entries, finished⟩ := exec_bind_eq_some_iff.mp built
      obtain ⟨values, areEncoded, rfl⟩ := octets_of_appendAckEntries entries
      exact ⟨values, areEncoded, packet_of_finishReadPropertyAck finished⟩

/-- A built acknowledgement of one value carries its octets. -/
theorem packet_of_buildReadPropertyAck
    {request : BacnetReadPropertyRequestHeader}
    {value : BacnetValue}
    {packet : List UInt8}
    (built : buildReadPropertyAck bufferSize request value = some packet) :
    Addressable request.request.object ∧
      ∃ encoded,
        applicationOctets value = some encoded ∧
          packet = readAckPacket request [encoded] ∧
          packet.length ≤ 0xFFFF := by
  rw [buildReadPropertyAck, build_eq_some_iff, writeReadPropertyAck,
    exec_require_bind_iff] at built
  obtain ⟨addressable, built⟩ := written_of_prefix built.2
  refine ⟨addressable, ?_⟩
  rw [exec_put_bind] at built
  obtain ⟨_, _, appended, finished⟩ := exec_bind_eq_some_iff.mp built
  obtain ⟨encoded, isEncoded, rfl⟩ := octets_of_appendAckValue appended
  rw [exec_offset_bind, exec_require_bind_iff, exec_put_bind,
    exec_storeLength] at finished
  have shape : packet = readAckPacket request [encoded] := by
    rw [readAckPacket, List.flatten_singleton]
    exact (Prod.mk.inj finished.2).2.symm
  have few := length_readAckPrefix_le request
  have short := length_applicationOctets_le isEncoded
  have capacity : kMaxTextLength = 512 := rfl
  refine ⟨encoded, isEncoded, shape, ?_⟩
  rw [shape, length_readAckPacket, List.flatten_singleton]
  omega

/-- A built acknowledgement of an empty list carries no octets. -/
theorem packet_of_buildReadPropertyEmptyListAck
    {request : BacnetReadPropertyRequestHeader}
    {packet : List UInt8}
    (built :
      buildReadPropertyEmptyListAck bufferSize request = some packet) :
    request.request.arrayIndex = kBacnetNoArrayIndex ∧
      Addressable request.request.object ∧
      packet = readAckPacket request [] ∧ packet.length ≤ 0xFFFF := by
  rw [buildReadPropertyEmptyListAck, build_eq_some_iff,
    writeReadPropertyEmptyListAck, exec_require_bind_iff,
    beq_iff_eq] at built
  obtain ⟨whole, built⟩ := built
  obtain ⟨addressable, built⟩ := written_of_prefix built
  rw [exec_put_bind, exec_offset_bind, exec_require_bind_iff,
    exec_storeLength] at built
  have shape : packet = readAckPacket request [] := by
    rw [readAckPacket, List.flatten_nil, List.append_nil,
      List.append_assoc]
    exact (Prod.mk.inj built.2).2.symm
  have few := length_readAckPrefix_le request
  refine ⟨whole, addressable, shape, ?_⟩
  rw [shape, length_readAckPacket, List.flatten_nil, List.length_nil]
  omega

end Built

/-- What a read returns: one value, or the whole of a list. -/
inductive AckContent where
  | value (value : BacnetValue)
  | slots (values : List BacnetValue)
  | texts (texts : List (List UInt8))
  | objects (objects : List BacnetObjectId)
  | properties (properties : List BacnetPropertyId)
  | nothing

/-- The value of one entry of a list of texts. -/
def listedText (text : List UInt8) : BacnetValue :=
  { type := .characterString, text := text }

/-- The value of one entry of a Property_List. -/
def listedProperty (property : BacnetPropertyId) : BacnetValue :=
  enumeratedValue property.raw

namespace AckContent

/-- The octets of the content, entry by entry. -/
def Encodes (values : List (List UInt8)) : AckContent → Prop
  | .value entry => EncodesEach id [entry] values
  | .slots entries => EncodesEach id entries values
  | .texts entries => EncodesEach listedText entries values
  | .objects entries => EncodesEach listedObjectValue entries values
  | .properties entries => EncodesEach listedProperty entries values
  | .nothing => values = []

/-- What a builder returns for the request of a whole list. -/
def Answers (request : BacnetPropertyRequest) : AckContent → Prop
  | .value _ => True
  | .slots _ =>
      request.arrayIndex = kBacnetNoArrayIndex ∧
        request.property = .priorityArray
  | .texts _ =>
      request.arrayIndex = kBacnetNoArrayIndex ∧
        request.property = .stateText
  | .objects entries =>
      request.arrayIndex = kBacnetNoArrayIndex ∧ entries ≠ []
  | .properties entries =>
      request.arrayIndex = kBacnetNoArrayIndex ∧ entries ≠ []
  | .nothing => request.arrayIndex = kBacnetNoArrayIndex

end AckContent

/-- The content of an array read: the whole, the length or one entry. -/
def arrayContent {α : Type}
    (request : BacnetPropertyRequest)
    (entryCount : Nat)
    (entryAt : Nat → Option α)
    (valueOf : α → BacnetValue)
    (whole : List α → AckContent) : Option AckContent :=
  if request.arrayIndex = kBacnetNoArrayIndex then
    ((List.range entryCount).mapM entryAt).map whole
  else if request.arrayIndex = 0 then
    some (.value (unsignedValue (UInt32.ofNat entryCount)))
  else
    (entryAt (request.arrayIndex - 1).toNat).map
      fun entry => .value (valueOf entry)

/-- One entry is encoded on its own. -/
theorem encodedEntries_singleton
    {valueAt : Nat → Option BacnetValue}
    {index : Nat}
    {values : List (List UInt8)} :
    encodedEntries valueAt [index] = some values ↔
      ∃ value octets,
        valueAt index = some value ∧
          applicationOctets value = some octets ∧ values = [octets] := by
  rw [encodedEntries_cons]
  constructor
  · intro encoded
    obtain ⟨value, found, encoded⟩ := Option.bind_eq_some_iff.mp encoded
    obtain ⟨octets, isEncoded, rest⟩ := Option.bind_eq_some_iff.mp encoded
    exact ⟨value, octets, found, isEncoded, (Option.some.inj rest).symm⟩
  · rintro ⟨value, octets, found, isEncoded, rfl⟩
    rw [found, Option.bind_some, isEncoded]
    rfl

section Arrays

variable {α : Type} {valueAt : Nat → Option BacnetValue}
  (entryAt : Nat → Option α) (valueOf : α → BacnetValue)
  (provides :
    ∀ index value, valueAt index = some value →
      ∃ entry, entryAt index = some entry ∧ valueOf entry = value)

include provides

/-- Encoded entries are the entries that were provided. -/
theorem encodesEach_of_encodedEntries
    {indices : List Nat}
    {values : List (List UInt8)}
    (encoded : encodedEntries valueAt indices = some values) :
    ∃ entries,
      indices.mapM entryAt = some entries ∧
        entries.length = indices.length ∧
        EncodesEach valueOf entries values := by
  induction indices generalizing values with
  | nil =>
      obtain rfl : [] = values := Option.some.inj encoded
      exact ⟨[], rfl, rfl, .nil⟩
  | cons index rest inductionHypothesis =>
      rw [encodedEntries_cons] at encoded
      obtain ⟨value, found, encoded⟩ := Option.bind_eq_some_iff.mp encoded
      obtain ⟨octets, isEncoded, encoded⟩ :=
        Option.bind_eq_some_iff.mp encoded
      obtain ⟨others, areEncoded, rfl⟩ := Option.map_eq_some_iff.mp encoded
      obtain ⟨entry, provided, rfl⟩ := provides index value found
      obtain ⟨entries, entriesFound, sized, encodes⟩ :=
        inductionHypothesis areEncoded
      refine ⟨entry :: entries, ?_, ?_, .cons isEncoded encodes⟩
      · rw [List.mapM_cons, provided, entriesFound]
        rfl
      · rw [List.length_cons, List.length_cons, sized]

/-- What an array read returns is its content. -/
theorem content_of_arrayReadValues
    {request : BacnetPropertyRequest}
    {entryCount : Nat}
    {values : List (List UInt8)}
    (whole : List α → AckContent)
    (wholeEncodes :
      ∀ entries values, EncodesEach valueOf entries values →
        (whole entries).Encodes values)
    (wholeAnswers :
      ∀ entries, entries.length = entryCount →
        request.arrayIndex = kBacnetNoArrayIndex →
          (whole entries).Answers request)
    (returned :
      arrayReadValues request entryCount valueAt = some values) :
    ∃ content,
      arrayContent request entryCount entryAt valueOf whole =
          some content ∧
        content.Encodes values ∧ content.Answers request := by
  unfold arrayReadValues at returned
  unfold arrayContent
  split at returned
  · next noIndex =>
    obtain ⟨entries, found, sized, encodes⟩ :=
      encodesEach_of_encodedEntries entryAt valueOf provides returned
    rw [List.length_range] at sized
    refine ⟨whole entries, ?_, wholeEncodes _ _ encodes,
      wholeAnswers entries sized noIndex⟩
    rw [if_pos noIndex, found]
    rfl
  · next indexed =>
    rw [if_neg indexed]
    split at returned
    · next length =>
      obtain ⟨_, octets, found, isEncoded, rfl⟩ :=
        encodedEntries_singleton.mp returned
      obtain rfl := Option.some.inj found
      rw [if_pos length]
      exact ⟨_, rfl, List.Forall₂.cons isEncoded .nil, trivial⟩
    · next notLength =>
      split at returned
      · obtain ⟨value, octets, found, isEncoded, rfl⟩ :=
          encodedEntries_singleton.mp returned
        obtain ⟨entry, provided, rfl⟩ := provides _ _ found
        rw [if_neg notLength, provided]
        exact ⟨_, rfl, List.Forall₂.cons isEncoded .nil, trivial⟩
      · cases returned

end Arrays

/-- A builder with what it is given besides the request. -/
inductive ReadAckCall where
  | value (value : BacnetValue)
  | priorityArray
      (slotCount : Nat)
      (valueAt : Nat → Option BacnetValue)
  | characterStringList
      (strings : List (Option (List UInt8)))
      (stringCount : Nat)
  | objectList
      (objectCount : Nat)
      (objectAt : Nat → Option BacnetObjectId)
  | propertyList
      (propertyCount : Nat)
      (propertyAt : Nat → Option BacnetPropertyId)
  | emptyList

namespace ReadAckCall

/-- The packet of a call, where one is built. -/
def build
    (bufferSize : Nat)
    (request : BacnetReadPropertyRequestHeader) :
    ReadAckCall → Option (List UInt8)
  | value sent => buildReadPropertyAck bufferSize request sent
  | priorityArray slotCount valueAt =>
      buildReadPropertyPriorityArrayAck bufferSize request slotCount valueAt
  | characterStringList strings stringCount =>
      buildReadPropertyCharacterStringListAck bufferSize request strings
        stringCount
  | objectList objectCount objectAt =>
      buildReadPropertyObjectListAck bufferSize request objectCount objectAt
  | propertyList propertyCount propertyAt =>
      buildReadPropertyPropertyListAck bufferSize request propertyCount
        propertyAt
  | emptyList => buildReadPropertyEmptyListAck bufferSize request

/-- What the call acknowledges to a request. -/
def content?
    (request : BacnetPropertyRequest) : ReadAckCall → Option AckContent
  | value sent => some (.value sent)
  | priorityArray slotCount valueAt =>
      arrayContent request slotCount valueAt id .slots
  | characterStringList strings stringCount =>
      arrayContent request stringCount (fun index => strings[index]?.join)
        listedText .texts
  | objectList objectCount objectAt =>
      arrayContent request objectCount objectAt listedObjectValue .objects
  | propertyList propertyCount propertyAt =>
      arrayContent request propertyCount propertyAt listedProperty
        .properties
  | emptyList => some .nothing

/-- A list of as many entries as an array of some length is not empty. -/
theorem ne_nil_of_length
    {α : Type}
    {entries : List α}
    {entryCount : Nat}
    (someEntry : entryCount ≠ 0)
    (sized : entries.length = entryCount) :
    entries ≠ [] := by
  rintro rfl
  exact someEntry sized.symm

/-- A built packet carries the content of its call. -/
theorem packet_of_build
    {call : ReadAckCall}
    {bufferSize : Nat}
    {request : BacnetReadPropertyRequestHeader}
    {packet : List UInt8}
    (built : call.build bufferSize request = some packet) :
    ∃ content values,
      call.content? request.request = some content ∧
        content.Encodes values ∧ content.Answers request.request ∧
        packet = readAckPacket request values ∧ packet.length ≤ 0xFFFF := by
  cases call with
  | value sent =>
      obtain ⟨_, octets, isEncoded, shape, short⟩ :=
        packet_of_buildReadPropertyAck built
      exact ⟨.value sent, [octets], rfl, .cons isEncoded .nil, trivial,
        shape, short⟩
  | priorityArray slotCount valueAt =>
      rw [build, buildReadPropertyPriorityArrayAck] at built
      split at built
      · cases built
      · next named =>
        obtain ⟨_, _, values, returned, shape, short⟩ :=
          packet_of_buildReadPropertyArrayAck built
        obtain ⟨content, found, encodes, answers⟩ :=
          content_of_arrayReadValues valueAt id
            (fun _ value found => ⟨value, found, rfl⟩) .slots
            (fun _ _ encodes => encodes)
            (fun _ _ whole => ⟨whole, not_not.mp named⟩) returned
        exact ⟨content, values, found, encodes, answers, shape, short⟩
  | characterStringList strings stringCount =>
      rw [build, buildReadPropertyCharacterStringListAck] at built
      split at built
      · cases built
      · next named =>
        obtain ⟨_, _, values, returned, shape, short⟩ :=
          packet_of_buildReadPropertyArrayAck built
        obtain ⟨content, found, encodes, answers⟩ :=
          content_of_arrayReadValues _ listedText
            (fun index value found => by
              split at found
              · cases found
              · next text provided =>
                split at found
                · cases found
                · exact ⟨text, provided, Option.some.inj found⟩) .texts
            (fun _ _ encodes => encodes)
            (fun _ _ whole => ⟨whole, not_not.mp named⟩) returned
        exact ⟨content, values, found, encodes, answers, shape, short⟩
  | objectList objectCount objectAt =>
      obtain ⟨someEntry, _, values, returned, shape, short⟩ :=
        packet_of_buildReadPropertyArrayAck built
      obtain ⟨content, found, encodes, answers⟩ :=
        content_of_arrayReadValues objectAt listedObjectValue
          (fun index value found => Option.map_eq_some_iff.mp found)
          .objects
          (fun _ _ encodes => encodes)
          (fun _ sized whole => ⟨whole, ne_nil_of_length someEntry sized⟩)
          returned
      exact ⟨content, values, found, encodes, answers, shape, short⟩
  | propertyList propertyCount propertyAt =>
      obtain ⟨someEntry, _, values, returned, shape, short⟩ :=
        packet_of_buildReadPropertyArrayAck built
      obtain ⟨content, found, encodes, answers⟩ :=
        content_of_arrayReadValues propertyAt listedProperty
          (fun index value found => Option.map_eq_some_iff.mp found)
          .properties
          (fun _ _ encodes => encodes)
          (fun _ sized whole => ⟨whole, ne_nil_of_length someEntry sized⟩)
          returned
      exact ⟨content, values, found, encodes, answers, shape, short⟩
  | emptyList =>
      obtain ⟨whole, _, shape, short⟩ :=
        packet_of_buildReadPropertyEmptyListAck built
      exact ⟨.nothing, [], rfl, rfl, whole, shape, short⟩

end ReadAckCall

end BacnetStack
