import BacnetStack.ProtocolResponseDecode
import BacnetStack.ProtocolRequestCodec
import BacnetStack.ProtocolListCodec

namespace BacnetStack

/-!
# COV notifications, built and parsed

A notification carries a list of property references with their values, each
between brackets of its own.  The builder and the parser walk the list in
separate loops; the lemmas here follow one entry through both and then, by
induction, the whole list.
-/

open Reader PacketWriter

/-- The octets of one entry around those of its value. -/
def covEntryOctets
    (entry : BacnetCovPropertyValue)
    (octets : List UInt8) : List UInt8 :=
  contextUnsigned 0 entry.property.raw ++
    (optionalIndex 1 entry.arrayIndex ++ ([0x2E] ++ (octets ++ [0x2F])))

/-- The octets of a list of entries, in order. -/
inductive EncodesEntries :
    List BacnetCovPropertyValue → List UInt8 → Prop where
  | nil : EncodesEntries [] []
  | cons
      {entry : BacnetCovPropertyValue}
      {rest : List BacnetCovPropertyValue}
      {octets following : List UInt8}
      (encoded : applicationOctets entry.value = some octets)
      (others : EncodesEntries rest following) :
      EncodesEntries (entry :: rest)
        (covEntryOctets entry octets ++ following)

/-- A written entry is encoded behind what was written before. -/
theorem exec_putCovPropertyValue
    {bufferSize : Nat}
    {entry : BacnetCovPropertyValue}
    {written result : List UInt8}
    {outcome : Unit}
    (puts :
      exec (putCovPropertyValue bufferSize entry) written =
        (some outcome, result)) :
    ∃ octets,
      applicationOctets entry.value = some octets ∧
        result = written ++ covEntryOctets entry octets := by
  rw [putCovPropertyValue, exec_offset_bind, exec_require_bind_iff,
    exec_put_bind] at puts
  obtain ⟨_, puts⟩ := puts
  have finish {before : List UInt8}
      (puts :
        exec
          (do
            put [0x2E]
            putApplicationValue
              (sizeSub (sizeSub bufferSize (← offset)) 2) entry.value
            put [0x2F]) before = (some outcome, result)) :
      ∃ octets,
        applicationOctets entry.value = some octets ∧
          result = before ++ ([0x2E] ++ (octets ++ [0x2F])) := by
    rw [exec_put_bind, exec_offset_bind, exec_bind_eq_some_iff] at puts
    obtain ⟨_, _, encodes, closes⟩ := puts
    obtain ⟨octets, encoded, _, rfl⟩ :=
      exec_putApplicationValue_eq_some_iff.mp encodes
    rw [exec_put] at closes
    refine ⟨octets, encoded, ?_⟩
    rw [← (Prod.mk.inj closes).2]
    simp only [List.append_assoc]
  unfold covEntryOctets optionalIndex
  by_cases indexed : entry.arrayIndex ≠ kBacnetNoArrayIndex
  · simp only [if_pos indexed] at puts ⊢
    rw [exec_offset_bind, exec_require_bind_iff, exec_put_bind] at puts
    obtain ⟨octets, encoded, rfl⟩ := finish puts.2
    exact ⟨octets, encoded, by simp only [List.append_assoc]⟩
  · simp only [if_neg indexed] at puts ⊢
    obtain ⟨octets, encoded, rfl⟩ := finish puts
    exact ⟨octets, encoded, by
      simp only [List.append_assoc, List.nil_append]⟩

/-- A written list is encoded behind what was written before. -/
theorem exec_putCovPropertyValues
    {bufferSize : Nat}
    {entries : List BacnetCovPropertyValue}
    {written result : List UInt8}
    {outcome : Unit}
    (puts :
      exec (putCovPropertyValues bufferSize entries) written =
        (some outcome, result)) :
    ∃ octets, EncodesEntries entries octets ∧ result = written ++ octets := by
  induction entries generalizing written with
  | nil =>
      rw [putCovPropertyValues, exec_pure] at puts
      refine ⟨[], .nil, ?_⟩
      rw [List.append_nil, (Prod.mk.inj puts).2]
  | cons entry rest inductionHypothesis =>
      rw [putCovPropertyValues, exec_bind_eq_some_iff] at puts
      obtain ⟨_, _, first, others⟩ := puts
      obtain ⟨octets, encoded, rfl⟩ := exec_putCovPropertyValue first
      obtain ⟨following, encodes, rfl⟩ := inductionHypothesis others
      exact ⟨_, .cons encoded encodes, List.append_assoc _ _ _⟩

/-- The arguments of the builder. -/
structure CovNotificationArguments where
  processId : UInt32
  initiatingDevice : BacnetObjectId
  monitoredObject : BacnetObjectId
  timeRemainingSeconds : UInt32
  values : List BacnetCovPropertyValue
  confirmed : Bool
  invokeId : UInt8
  deriving DecidableEq

namespace CovNotificationArguments

variable (arguments : CovNotificationArguments)

/-- The packet the builder makes of its arguments. -/
def build (bufferSize : Nat) : Option (List UInt8) :=
  buildCovNotification bufferSize arguments.processId
    arguments.initiatingDevice arguments.monitoredObject
    arguments.timeRemainingSeconds arguments.values arguments.confirmed
    arguments.invokeId

/-- The service octets of the two forms. -/
def serviceOctets : List UInt8 :=
  if arguments.confirmed then
    [kApduConfirmedRequest, 0x05, arguments.invokeId,
      kServiceConfirmedCovNotification]
  else
    [kApduUnconfirmedRequest, kServiceUnconfirmedCovNotification]

/-- The control octet of the network header. -/
def control : UInt8 :=
  if arguments.confirmed then kNpduExpectingReply else 0

/-- Everything behind the network header. -/
def apdu (entries : List UInt8) : List UInt8 :=
  arguments.serviceOctets ++
    (contextUnsigned 0 arguments.processId ++
      (contextObjectIdentifier 1 arguments.initiatingDevice ++
        (contextObjectIdentifier 2 arguments.monitoredObject ++
          (contextUnsigned 3 arguments.timeRemainingSeconds ++
            ([0x4E] ++ (entries ++ [0x4F]))))))

/-- The packet around the encoded entries. -/
def packet (entries : List UInt8) : List UInt8 :=
  kBvlcTypeBacnetIp :: kBvlcOriginalUnicastNpdu ::
    UInt8.ofNat (((arguments.apdu entries).length + 6) / 256) ::
    UInt8.ofNat ((arguments.apdu entries).length + 6) ::
    kNpduVersion :: arguments.control :: arguments.apdu entries

variable {arguments}

/-- Both forms are written in front of what follows. -/
theorem exec_service_bind
    {β : Type}
    (continuation : Unit → PacketWriter β)
    (written : List UInt8) :
    exec
        (if arguments.confirmed then
          put [kApduConfirmedRequest, 0x05, arguments.invokeId,
            kServiceConfirmedCovNotification] >>= continuation
        else
          put [kApduUnconfirmedRequest,
            kServiceUnconfirmedCovNotification] >>= continuation) written =
      exec (continuation ()) (written ++ arguments.serviceOctets) := by
  unfold serviceOctets
  cases arguments.confirmed <;> rfl

/-- Storing the length completes the packet. -/
theorem storeLength_packet
    (entries : List UInt8) :
    exec storeLength
        ([kBvlcTypeBacnetIp, kBvlcOriginalUnicastNpdu, 0, 0,
          kNpduVersion, arguments.control] ++ arguments.apdu entries) =
      (some (), arguments.packet entries) := by
  have sized :
      ([kBvlcTypeBacnetIp, kBvlcOriginalUnicastNpdu, 0, 0,
        kNpduVersion, arguments.control] ++
        arguments.apdu entries).length =
        (arguments.apdu entries).length + 6 := by
    rw [List.length_append, Nat.add_comm]
    rfl
  rw [exec_storeLength, sized]
  rfl

/-- A built notification has its entries encoded in it. -/
theorem build_eq_some
    {bufferSize : Nat}
    {built : List UInt8}
    (builds : arguments.build bufferSize = some built) :
    arguments.monitoredObject.instance_ ≤ kObjectInstanceMask ∧
      arguments.values ≠ [] ∧
      ∃ entries,
        EncodesEntries arguments.values entries ∧
          built = arguments.packet entries := by
  rw [build, buildCovNotification, build_eq_some_iff,
    writeCovNotification, exec_require_bind_iff] at builds
  obtain ⟨checks, builds⟩ := builds
  simp only [Bool.and_eq_true, decide_eq_true_eq,
    Bool.not_eq_eq_eq_not, Bool.not_true, List.isEmpty_eq_false_iff] at checks
  obtain ⟨⟨⟨nonempty, _⟩, objectInstance⟩, _⟩ := checks
  refine ⟨objectInstance, nonempty, ?_⟩
  rw [putHeaders, exec_put_bind] at builds
  replace builds := (exec_service_bind _ _).symm.trans builds
  rw [exec_offset_bind, exec_require_bind_iff, exec_put_bind,
    exec_put_bind, exec_put_bind, exec_put_bind, exec_put_bind,
    exec_bind_eq_some_iff] at builds
  obtain ⟨_, _, _, puts, closes⟩ := builds
  obtain ⟨entries, encodes, rfl⟩ := exec_putCovPropertyValues puts
  rw [exec_offset_bind, exec_require_bind_iff, exec_put_bind] at closes
  refine ⟨entries, encodes, ?_⟩
  have written :
      exec storeLength
          ([kBvlcTypeBacnetIp, kBvlcOriginalUnicastNpdu, 0, 0,
            kNpduVersion, arguments.control] ++ arguments.apdu entries) =
        (some (), built) := by
    rw [← closes.2]
    simp only [apdu, control, List.append_assoc, List.nil_append]
  rw [storeLength_packet] at written
  exact (Prod.mk.inj written).2.symm

end CovNotificationArguments

/-- The entry a parser makes of an encoded one. -/
def receivedEntry (entry : BacnetCovPropertyValue) : BacnetCovPropertyValue :=
  { entry with value := receivedValue entry.value }

/-- An entry whose value has a list form. -/
def BacnetCovPropertyValue.ReadsAsList
    (entry : BacnetCovPropertyValue) : Prop :=
  BacnetStack.ReadsAsList entry.property entry.arrayIndex entry.value.type

instance (entry : BacnetCovPropertyValue) : Decidable entry.ReadsAsList :=
  inferInstanceAs (Decidable (BacnetStack.ReadsAsList _ _ _))

/-- What follows an entry is not a priority. -/
def NoPriority (rest : List UInt8) : Prop :=
  (atContextTag 3).run rest = .ok (false, rest)

/-- The end of an entry from its value on. -/
def readCovEntryValue
    (property : BacnetPropertyId)
    (arrayIndex : UInt32) : Reader BacnetCovPropertyValue := do
  let value ← parseReadPropertyApplicationValue property arrayIndex
  expect 0x2F
  if ← atContextTag 3 then
    if (← peek) &&& 0x07 < 5 then
      let _priority ← readContextValue 3
  return {
    property := property
    arrayIndex := arrayIndex
    value := value
  }

/-- An entry is read up to its value. -/
theorem run_readCovPropertyValue
    (entry : BacnetCovPropertyValue)
    (octets rest : List UInt8) :
    readCovPropertyValue.run (covEntryOctets entry octets ++ rest) =
      (readCovEntryValue entry.property entry.arrayIndex).run
        (octets ++ 0x2F :: rest) := by
  have shape :
      covEntryOctets entry octets ++ rest =
        contextUnsigned 0 entry.property.raw ++
          (optionalIndex 1 entry.arrayIndex ++
            0x2E :: (octets ++ 0x2F :: rest)) := by
    simp only [covEntryOctets, List.append_assoc, List.cons_append,
      List.nil_append]
  rw [shape, readCovPropertyValue,
    run_bind_of_ok (run_readContextValue_contextUnsigned (by decide) _ _)]
  unfold optionalIndex
  by_cases indexed : entry.arrayIndex ≠ kBacnetNoArrayIndex
  · rw [if_pos indexed,
      run_bind_of_ok
        (run_atContextTag_contextUnsigned (by decide) 1 _ _)]
    change (readContextValue 1 >>= _).run _ = _
    rw [run_bind_of_ok
      (run_readContextValue_contextUnsigned (by decide) _ _)]
    dsimp only
    rw [run_bind_of_ok (run_expect_cons _ _)]
    rfl
  · have absent :
        (atContextTag 1).run (0x2E :: (octets ++ 0x2F :: rest)) =
          .ok (false, 0x2E :: (octets ++ 0x2F :: rest)) :=
      rfl
    rw [if_neg indexed, List.nil_append, run_bind_of_ok absent]
    simp only [Bool.false_eq_true, if_false, pure_bind]
    rw [run_bind_of_ok (run_expect_cons _ _), not_not.mp indexed]
    rfl

/-- An entry without a list form is read back. -/
theorem run_readCovPropertyValue_single
    {entry : BacnetCovPropertyValue}
    {octets rest : List UInt8}
    (encoded : applicationOctets entry.value = some octets)
    (single : ¬entry.ReadsAsList)
    (noPriority : NoPriority rest) :
    readCovPropertyValue.run (covEntryOctets entry octets ++ rest) =
      .ok (receivedEntry entry, rest) := by
  rw [run_readCovPropertyValue, readCovEntryValue,
    run_bind_of_ok
      (run_parseReadPropertyApplicationValue encoded single _),
    run_bind_of_ok (run_expect_cons _ _), run_bind_of_ok noPriority]
  rfl

/-- A number with another tag is refused. -/
theorem run_readApplicationValue_refused
    {expectedTag first : UInt8}
    (other : first >>> 4 ≠ expectedTag)
    (rest : List UInt8) :
    (readApplicationValue expectedTag).run (first :: rest) =
      .error .rejected := by
  have differs : (first >>> 4 == expectedTag) = false :=
    beq_eq_false_iff_ne.mpr other
  rw [readApplicationValue, run_bind_of_ok (run_checkedNext_cons _ _),
    run_bind_of_ok (run_remaining _), differs]
  simp only [Bool.and_false, Bool.false_and]
  rfl

/-- A reader that failed is not continued. -/
theorem run_bind_of_error
    {α β : Type}
    {reader : Reader α}
    {packet : List UInt8}
    {fault : ReadFault}
    (failed : reader.run packet = .error fault)
    (continuation : α → Reader β) :
    (reader >>= continuation).run packet = .error fault := by
  rw [StateT.run_bind, failed]
  rfl

/-- The number behind a tag, where the decoder of that tag succeeded. -/
theorem read_of_parseTagged
    {tag first : UInt8}
    (listTag : tag = 9 ∨ tag = 12)
    (number : first >>> 4 = tag)
    {packet rest : List UInt8}
    {value : BacnetValue}
    (decoded :
      parseTaggedApplicationValue.run (first :: packet) =
        .ok (value, rest)) :
    ∃ raw, (readApplicationValue tag).run (first :: packet) =
      .ok (raw, rest) := by
  rw [parseTaggedApplicationValue, run_bind_of_ok (run_peek_cons _ _),
    number] at decoded
  rcases listTag with rfl | rfl
  · change (parseApplicationUnsigned 9).run _ = _ at decoded
    rw [parseApplicationUnsigned, run_bind_eq_ok_iff] at decoded
    obtain ⟨raw, _, read, result⟩ := decoded
    cases result
    exact ⟨raw, read⟩
  · change parseApplicationObjectIdentifier.run _ = _ at decoded
    rw [parseApplicationObjectIdentifier, run_bind_eq_ok_iff] at decoded
    obtain ⟨raw, _, read, result⟩ := decoded
    cases result
    exact ⟨raw, read⟩

/--
Inside an entry a list form is never decoded: its loop runs up to the closing
bracket of a read reply.
-/
theorem run_parseReadPropertyApplicationValue_listed
    {value : BacnetValue}
    {octets : List UInt8}
    (encoded : applicationOctets value = some octets)
    {property : BacnetPropertyId}
    {arrayIndex : UInt32}
    (listed : ReadsAsList property arrayIndex value.type)
    (rest : List UInt8) :
    (parseReadPropertyApplicationValue property arrayIndex).run
        (octets ++ 0x2F :: rest) = .error .rejected := by
  have tagged := run_parseTaggedApplicationValue encoded (0x2F :: rest)
  obtain ⟨whole, properties | ⟨objects, identifier⟩⟩ := listed
  · have notObjects : property ≠ .objectList := by
      rw [properties]
      decide
    cases octets with
    | nil =>
        exact absurd rfl (applicationOctets_ne_nil encoded)
    | cons first tail =>
        rw [List.cons_append] at tagged ⊢
        rw [run_parseReadPropertyApplicationValue_cons,
          if_neg (fun both => notObjects both.1),
          if_neg (fun both => notObjects both.1),
          if_pos ⟨properties, whole⟩,
          parseApplicationPropertyIdentifierList,
          run_bind_of_ok (run_remaining _), List.length_cons,
          List.length_append, List.length_cons, ← Nat.add_assoc]
        refine run_bind_of_error ?_ _
        have opened : first ≠ 0x3F := by
          rintro rfl
          cases tagged
        by_cases enumerated : first >>> 4 = 9
        · obtain ⟨raw, read⟩ :=
            read_of_parseTagged (Or.inl rfl) enumerated tagged
          have fits :
              (withEntry [] (unsignedDecimal raw)).length <
                kMaxTextLength :=
            lt_of_le_of_lt (length_unsignedDecimal_le raw) (by decide)
          rw [run_propertyIdentifierListText_succ opened read _ fits]
          exact run_propertyIdentifierListText_covBracket _ _ _
        · have more : (first != 0x3F) = true := bne_iff_ne.mpr opened
          rw [propertyIdentifierListText, run_bind_of_ok (run_hasMore _)]
          change (peek >>= _).run _ = _
          rw [run_bind_of_ok (run_peek_cons _ _), more]
          exact run_bind_of_error
            (run_readApplicationValue_refused enumerated _) _
  · have head := applicationOctets_objectIdentifier_head identifier encoded
    cases octets with
    | nil =>
        cases head
    | cons first tail =>
        obtain rfl := Option.some.inj head
        rw [List.cons_append] at tagged ⊢
        rw [run_parseReadPropertyApplicationValue_cons,
          if_neg (fun both => absurd both.2 (by decide)),
          if_pos ⟨objects, by decide⟩, if_neg (not_not_intro whole),
          parseApplicationObjectIdentifierList,
          run_bind_of_ok (run_remaining _), List.length_cons,
          List.length_append, List.length_cons, ← Nat.add_assoc]
        refine run_bind_of_error ?_ _
        obtain ⟨raw, read⟩ :=
          read_of_parseTagged (Or.inr rfl) (by decide) tagged
        have fits :
            (withEntry [] (objectIdText (decodeObjectId raw))).length <
              kMaxTextLength := by
          have typeDigits :=
            length_unsignedDecimal_le (decodeObjectId raw).type.toUInt32
          have instanceDigits :=
            length_unsignedDecimal_le (decodeObjectId raw).instance_
          have comma : (asciiBytes ",").length = 1 := rfl
          change (objectIdText (decodeObjectId raw)).length < 512
          rw [objectIdText, List.length_append, List.length_append]
          omega
        rw [run_objectIdentifierListText_succ (by decide) read,
          appendObjectId_of_fits fits]
        exact run_objectIdentifierListText_covBracket _ _ _

/-- An entry with a list form is refused. -/
theorem run_readCovPropertyValue_listed
    {entry : BacnetCovPropertyValue}
    {octets : List UInt8}
    (encoded : applicationOctets entry.value = some octets)
    (listed : entry.ReadsAsList)
    (rest : List UInt8) :
    readCovPropertyValue.run (covEntryOctets entry octets ++ rest) =
      .error .rejected := by
  rw [run_readCovPropertyValue]
  exact run_bind_of_error
    (run_parseReadPropertyApplicationValue_listed encoded listed rest) _

/-! The receiver's side: the list, the packet and the notification. -/

/-- What the parser reports of a list of entries. -/
def reportAll
    (notification : BacnetCovNotification)
    (hasValue : Bool) :
    List BacnetCovPropertyValue → BacnetCovNotification × Bool
  | [] => (notification, hasValue)
  | entry :: rest =>
      reportAll (notification.report hasValue entry) true rest

/-- An entry starts with the tag of its property. -/
theorem covEntryOctets_cons
    (entry : BacnetCovPropertyValue)
    (octets rest : List UInt8) :
    ∃ first tail,
      covEntryOctets entry octets ++ rest = first :: tail ∧
        first ≠ 0x4F ∧ first >>> 4 = 0 := by
  unfold covEntryOctets contextUnsigned
  split
  · exact ⟨_, _, rfl, by decide, by decide⟩
  · split
    · exact ⟨_, _, rfl, by decide, by decide⟩
    · exact ⟨_, _, rfl, by decide, by decide⟩

/-- Neither a further entry nor the end of the list looks like a priority. -/
theorem EncodesEntries.noPriority
    {entries : List BacnetCovPropertyValue}
    {octets : List UInt8}
    (encodes : EncodesEntries entries octets)
    (rest : List UInt8) :
    NoPriority (octets ++ 0x4F :: rest) := by
  cases encodes with
  | nil => rfl
  | @cons entry _ valueOctets following _ _ =>
      obtain ⟨first, tail, shape, _, number⟩ :=
        covEntryOctets_cons entry valueOctets
          (following ++ 0x4F :: rest)
      rw [List.append_assoc, shape, NoPriority, atContextTag,
        run_bind_of_ok (run_hasMore _)]
      change (peek >>= _).run _ = _
      rw [run_bind_of_ok (run_peek_cons _ _), number]
      rfl

/-- One round of the list of entries. -/
theorem run_readCovValues_succ
    {first : UInt8}
    (opened : first ≠ 0x4F)
    (tail : List UInt8)
    (rounds : Nat)
    (notification : BacnetCovNotification)
    (hasValue : Bool) :
    (readCovValues (rounds + 1) notification hasValue).run (first :: tail) =
      (readCovPropertyValue >>= fun reported =>
        readCovValues rounds (notification.report hasValue reported)
          true).run (first :: tail) := by
  have more : (first != 0x4F) = true := bne_iff_ne.mpr opened
  rw [readCovValues, run_bind_of_ok (run_hasMore _)]
  change (peek >>= _).run _ = _
  rw [run_bind_of_ok (run_peek_cons _ _), more]
  rfl

/-- A list without list forms is reported entry by entry. -/
theorem run_readCovValues
    {entries : List BacnetCovPropertyValue}
    {octets : List UInt8}
    (encodes : EncodesEntries entries octets)
    (single : ∀ entry ∈ entries, ¬entry.ReadsAsList)
    {rounds : Nat}
    (enough : entries.length ≤ rounds)
    (notification : BacnetCovNotification)
    (hasValue : Bool)
    (rest : List UInt8) :
    (readCovValues rounds notification hasValue).run
        (octets ++ 0x4F :: rest) =
      .ok (reportAll notification hasValue (entries.map receivedEntry),
        0x4F :: rest) := by
  induction encodes generalizing rounds notification hasValue with
  | nil =>
      cases rounds <;> rfl
  | @cons entry entries valueOctets following encoded others
      inductionHypothesis =>
      obtain ⟨rounds, rfl⟩ : ∃ others, rounds = others + 1 :=
        ⟨rounds - 1, by simp only [List.length_cons] at enough; omega⟩
      obtain ⟨first, tail, shape, opened, _⟩ :=
        covEntryOctets_cons entry valueOctets (following ++ 0x4F :: rest)
      have reads :=
        run_readCovPropertyValue_single encoded
          (single entry List.mem_cons_self) (others.noPriority rest)
      rw [shape] at reads
      rw [List.append_assoc, shape, run_readCovValues_succ opened,
        run_bind_of_ok reads]
      exact inductionHypothesis
        (fun other member => single other (List.mem_cons_of_mem _ member))
        (Nat.le_of_succ_le_succ enough) _ _

/-- A list with a list form among its entries is refused. -/
theorem run_readCovValues_listed
    {entries : List BacnetCovPropertyValue}
    {octets : List UInt8}
    (encodes : EncodesEntries entries octets)
    (listed : ∃ entry ∈ entries, entry.ReadsAsList)
    {rounds : Nat}
    (enough : entries.length ≤ rounds)
    (notification : BacnetCovNotification)
    (hasValue : Bool)
    (rest : List UInt8) :
    (readCovValues rounds notification hasValue).run
        (octets ++ 0x4F :: rest) = .error .rejected := by
  induction encodes generalizing rounds notification hasValue with
  | nil =>
      obtain ⟨_, member, _⟩ := listed
      cases member
  | @cons entry entries valueOctets following encoded others
      inductionHypothesis =>
      obtain ⟨rounds, rfl⟩ : ∃ others, rounds = others + 1 :=
        ⟨rounds - 1, by simp only [List.length_cons] at enough; omega⟩
      obtain ⟨first, tail, shape, opened, _⟩ :=
        covEntryOctets_cons entry valueOctets (following ++ 0x4F :: rest)
      rw [List.append_assoc, shape, run_readCovValues_succ opened]
      by_cases list : entry.ReadsAsList
      · have refused :=
          run_readCovPropertyValue_listed encoded list
            (following ++ 0x4F :: rest)
        rw [shape] at refused
        exact run_bind_of_error refused _
      · have reads :=
          run_readCovPropertyValue_single encoded list
            (others.noPriority rest)
        rw [shape] at reads
        rw [run_bind_of_ok reads]
        refine inductionHypothesis ?_ (Nat.le_of_succ_le_succ enough) _ _
        obtain ⟨other, member, otherListed⟩ := listed
        rcases List.mem_cons.mp member with rfl | inRest
        · exact absurd otherListed list
        · exact ⟨other, inRest, otherListed⟩

/-- The header fields of a notification, before any value. -/
def CovNotificationArguments.header
    (arguments : CovNotificationArguments) : BacnetCovNotification :=
  { processId := arguments.processId
    object := decodeObjectId (encodeObjectId arguments.monitoredObject)
    confirmed := arguments.confirmed
    invokeId := if arguments.confirmed then arguments.invokeId else 0 }

/-- Both forms of the service are recognized. -/
theorem run_readCovNotificationService
    (arguments : CovNotificationArguments)
    (rest : List UInt8) :
    readCovNotificationService.run (arguments.serviceOctets ++ rest) =
      .ok ({
        confirmed := arguments.confirmed
        invokeId := if arguments.confirmed then arguments.invokeId else 0
      }, rest) := by
  unfold CovNotificationArguments.serviceOctets
  cases arguments.confirmed <;> rfl

/-- Every entry of an encoded list can be encoded. -/
theorem EncodesEntries.encodable
    {entries : List BacnetCovPropertyValue}
    {octets : List UInt8}
    (encodes : EncodesEntries entries octets) :
    ∀ entry ∈ entries,
      ∃ valueOctets, applicationOctets entry.value = some valueOctets := by
  induction encodes with
  | nil => exact fun _ member => nomatch member
  | cons encoded _ inductionHypothesis =>
      intro entry member
      rcases List.mem_cons.mp member with rfl | inRest
      · exact ⟨_, encoded⟩
      · exact inductionHypothesis entry inRest

/-- A list of entries has at least as many octets. -/
theorem EncodesEntries.length_le
    {entries : List BacnetCovPropertyValue}
    {octets : List UInt8}
    (encodes : EncodesEntries entries octets) :
    entries.length ≤ octets.length ∧
      octets.length ≤ entries.length * 524 := by
  induction encodes with
  | nil => exact ⟨le_rfl, le_rfl⟩
  | @cons entry entries valueOctets following encoded others
      inductionHypothesis =>
      have property := length_contextUnsigned_le 0 entry.property.raw
      have index := length_optionalIndex_le 1 entry.arrayIndex
      have value := length_applicationOctets_le encoded
      change valueOctets.length ≤ 512 at value
      rw [covEntryOctets]
      simp only [List.length_append, List.length_cons, List.length_nil]
      omega

/-- The two length octets announce the packet. -/
theorem CovNotificationArguments.length_apdu
    (arguments : CovNotificationArguments)
    (entries : List UInt8) :
    14 ≤ (arguments.apdu entries).length ∧
      (arguments.apdu entries).length ≤ entries.length + 26 := by
  have process := length_contextUnsigned_le 0 arguments.processId
  have time := length_contextUnsigned_le 3 arguments.timeRemainingSeconds
  have service :
      2 ≤ arguments.serviceOctets.length ∧
        arguments.serviceOctets.length ≤ 4 := by
    unfold CovNotificationArguments.serviceOctets
    split <;> simp
  simp only [CovNotificationArguments.apdu, contextObjectIdentifier,
    List.length_append, List.length_cons, List.length_nil,
    length_bigEndianOctets]
  omega

/-- A notification is parsed up to the list of its values. -/
theorem run_covNotificationReader
    (arguments : CovNotificationArguments)
    {entries : List UInt8}
    (short : entries.length ≤ 0xFF00) :
    covNotificationReader.run (arguments.packet entries) =
      (readCovValues (entries ++ [0x4F]).length arguments.header false >>=
        fun outcome => do
          Reader.require outcome.2
          expect 0x4F
          atEnd
          return outcome.1 : Reader BacnetCovNotification).run
        (entries ++ [0x4F]) := by
  obtain ⟨atLeast, atMost⟩ := arguments.length_apdu entries
  have announced :=
    announcedLength
      (show (arguments.apdu entries).length + 6 ≤ 0xFFFF by omega)
  have plain : arguments.control = 0 ∨
      arguments.control = kNpduExpectingReply := by
    unfold CovNotificationArguments.control
    cases arguments.confirmed
    · exact Or.inl rfl
    · exact Or.inr rfl
  rw [covNotificationReader, CovNotificationArguments.packet,
    run_bind_of_ok (run_readBvlcHeader
      (by simp only [List.length_cons]; omega)
      (by simpa only [List.length_cons] using announced)),
    run_bind_of_ok (run_readNpduHeader_plain plain _),
    CovNotificationArguments.apdu,
    run_bind_of_ok (run_readCovNotificationService arguments _),
    run_bind_of_ok (run_readContextValue_contextUnsigned (by decide) _ _),
    run_bind_of_ok (run_readContextValue_contextObjectIdentifier
      (by decide) _ _),
    run_bind_of_ok (run_readContextValue_contextObjectIdentifier
      (by decide) _ _),
    run_bind_of_ok (run_readContextValue_contextUnsigned (by decide) _ _),
    List.singleton_append, run_bind_of_ok (run_expect_cons _ _),
    run_bind_of_ok (run_remaining _)]
  rfl

/-- What the parser makes of a notification without list forms. -/
def CovNotificationArguments.received
    (arguments : CovNotificationArguments) : BacnetCovNotification :=
  (reportAll arguments.header false
    (arguments.values.map receivedEntry)).1

/-- Some value was reported where there is an entry. -/
theorem reportAll_hasValue
    (notification : BacnetCovNotification)
    {entries : List BacnetCovPropertyValue}
    (nonempty : entries ≠ []) :
    (reportAll notification false entries).2 = true := by
  have stays (notification : BacnetCovNotification)
      (entries : List BacnetCovPropertyValue) :
      (reportAll notification true entries).2 = true := by
    induction entries generalizing notification with
    | nil => rfl
    | cons entry rest inductionHypothesis =>
        exact inductionHypothesis _
  cases entries with
  | nil => exact absurd rfl nonempty
  | cons entry rest => exact stays _ rest

/--
A notification is parsed where no entry has a list form, and refused
otherwise.
-/
theorem parseCovNotification_packet
    {arguments : CovNotificationArguments}
    {entries : List UInt8}
    (encodes : EncodesEntries arguments.values entries)
    (few : arguments.values.length ≤ kMaxCovNotificationProperties)
    (nonempty : arguments.values ≠ []) :
    ((∀ entry ∈ arguments.values, ¬entry.ReadsAsList) →
        parseCovNotification (arguments.packet entries) =
          some arguments.received) ∧
      ((∃ entry ∈ arguments.values, entry.ReadsAsList) →
        parseCovNotification (arguments.packet entries) = none) := by
  obtain ⟨atLeast, atMost⟩ := encodes.length_le
  change arguments.values.length ≤ 4 at few
  have short : entries.length ≤ 0xFF00 := by omega
  have enough :
      arguments.values.length ≤ (entries ++ [0x4F]).length := by
    rw [List.length_append]
    omega
  have reads := run_covNotificationReader arguments short
  constructor
  · intro single
    have values :=
      run_readCovValues encodes single enough arguments.header false []
    have hasValue :=
      reportAll_hasValue arguments.header
        (mt List.map_eq_nil_iff.mp nonempty :
          arguments.values.map receivedEntry ≠ [])
    refine parse?_eq_some_iff.mpr ⟨[], ?_⟩
    rw [reads, run_bind_of_ok values, run_require_bind hasValue,
      run_bind_of_ok (run_expect_cons _ _)]
    rfl
  · intro listed
    have refused :=
      run_readCovValues_listed encodes listed enough arguments.header
        false []
    rw [parseCovNotification, parse?, reads, run_bind_of_error refused]

/-- Two entries about the same property that say the same. -/
def SameEntry (received sent : BacnetCovPropertyValue) : Prop :=
  received.property = sent.property ∧
    received.arrayIndex = sent.arrayIndex ∧
    SameValue received.value sent.value

/-- The last Present_Value of a notification, or else its first entry. -/
def primaryEntry
    (entries : List BacnetCovPropertyValue) :
    Option BacnetCovPropertyValue :=
  (entries.filter (·.property == .presentValue)).getLast? <|> entries.head?

/-- The primary value a notification was given. -/
def BacnetCovNotification.primary
    (notification : BacnetCovNotification) : BacnetCovPropertyValue :=
  { property := notification.property
    arrayIndex := notification.arrayIndex
    value := notification.value }

/-- Reporting a list appends it as far as the notification has room. -/
theorem properties_reportAll
    (notification : BacnetCovNotification)
    (hasValue : Bool)
    {entries : List BacnetCovPropertyValue}
    (room :
      notification.properties.length + entries.length ≤
        kMaxCovNotificationProperties) :
    (reportAll notification hasValue entries).1.properties =
      notification.properties ++ entries := by
  induction entries generalizing notification hasValue with
  | nil =>
      exact (List.append_nil _).symm
  | cons entry rest inductionHypothesis =>
      rw [List.length_cons] at room
      have kept :
          (notification.report hasValue entry).properties =
            notification.properties ++ [entry] := by
        have fits :
            notification.properties.length <
              kMaxCovNotificationProperties := by
          omega
        unfold BacnetCovNotification.report
        rw [if_pos fits]
        split <;> rfl
      rw [reportAll, inductionHypothesis _ _ (by
        rw [kept, List.length_append, List.length_singleton]
        omega), kept, List.append_assoc, List.singleton_append]

/-- The header fields are not changed by a report. -/
theorem reportAll_header
    (notification : BacnetCovNotification)
    (hasValue : Bool)
    (entries : List BacnetCovPropertyValue) :
    (reportAll notification hasValue entries).1.processId =
        notification.processId ∧
      (reportAll notification hasValue entries).1.object =
        notification.object ∧
      (reportAll notification hasValue entries).1.confirmed =
        notification.confirmed ∧
      (reportAll notification hasValue entries).1.invokeId =
        notification.invokeId := by
  induction entries generalizing notification hasValue with
  | nil =>
      exact ⟨rfl, rfl, rfl, rfl⟩
  | cons entry rest inductionHypothesis =>
      obtain ⟨process, object, confirmed, invoke⟩ :=
        inductionHypothesis (notification.report hasValue entry) true
      rw [reportAll, process, object, confirmed, invoke]
      unfold BacnetCovNotification.report
      split <;> split <;> exact ⟨rfl, rfl, rfl, rfl⟩

/-- A reported value becomes the primary one where it is taken as such. -/
theorem primary_report
    (notification : BacnetCovNotification)
    (hasValue : Bool)
    (entry : BacnetCovPropertyValue) :
    (notification.report hasValue entry).primary =
      if !hasValue || entry.property == .presentValue then
        entry
      else
        notification.primary := by
  unfold BacnetCovNotification.report BacnetCovNotification.primary
  cases !hasValue || entry.property == .presentValue
  · split <;> rfl
  · rfl

/-- Behind a first entry only a Present_Value replaces the primary value. -/
theorem primary_reportAll_true
    (notification : BacnetCovNotification)
    (entries : List BacnetCovPropertyValue) :
    (reportAll notification true entries).1.primary =
      ((entries.filter (·.property == .presentValue)).getLast?).getD
        notification.primary := by
  induction entries generalizing notification with
  | nil =>
      rfl
  | cons entry rest inductionHypothesis =>
      rw [reportAll, inductionHypothesis, primary_report, Bool.not_true,
        Bool.false_or, List.filter_cons]
      split
      · rw [List.getLast?_cons, Option.getD_some]
      · rfl

/-- The primary value is the last Present_Value, or else the first entry. -/
theorem primary_reportAll
    (notification : BacnetCovNotification)
    {entries : List BacnetCovPropertyValue}
    (nonempty : entries ≠ []) :
    primaryEntry entries =
      some (reportAll notification false entries).1.primary := by
  cases entries with
  | nil => exact absurd rfl nonempty
  | cons entry rest =>
      rw [reportAll, primary_reportAll_true, primary_report, Bool.not_false,
        Bool.true_or, if_pos rfl, primaryEntry, List.filter_cons]
      split
      · rw [List.getLast?_cons]
        rfl
      · cases (rest.filter (·.property == .presentValue)).getLast? <;> rfl

/-- Entries that can be encoded are received as they were. -/
theorem EncodesEntries.sameEntries
    {entries : List BacnetCovPropertyValue}
    {octets : List UInt8}
    (encodes : EncodesEntries entries octets) :
    List.Forall₂ SameEntry (entries.map receivedEntry) entries := by
  induction encodes with
  | nil => exact .nil
  | cons encoded _ inductionHypothesis =>
      exact .cons ⟨rfl, rfl, receivedValue_same encoded⟩ inductionHypothesis

/-- The primary entry is among the entries. -/
theorem mem_of_primaryEntry
    {entries : List BacnetCovPropertyValue}
    {entry : BacnetCovPropertyValue}
    (primary : primaryEntry entries = some entry) :
    entry ∈ entries := by
  unfold primaryEntry at primary
  cases last :
    (entries.filter (·.property == .presentValue)).getLast? with
  | none =>
      rw [last] at primary
      exact List.mem_of_mem_head? primary
  | some other =>
      rw [last] at primary
      obtain rfl := Option.some.inj primary
      exact (List.mem_filter.mp (List.mem_of_mem_getLast? last)).1

/-- Receiving the entries keeps which of them is the primary one. -/
theorem primaryEntry_received
    (entries : List BacnetCovPropertyValue) :
    primaryEntry (entries.map receivedEntry) =
      (primaryEntry entries).map receivedEntry := by
  have kept :
      ((entries.map receivedEntry).filter
        (·.property == .presentValue)) =
        (entries.filter (·.property == .presentValue)).map
          receivedEntry := by
    rw [List.filter_map]
    rfl
  unfold primaryEntry
  rw [kept, List.getLast?_map, List.head?_map]
  cases (entries.filter (·.property == .presentValue)).getLast? <;> rfl

/--
The packet is accepted and reports what was sent: the header fields, the
entries in their order, and the primary entry.
-/
def CovReceived
    (arguments : CovNotificationArguments)
    (packet : List UInt8) : Prop :=
  ∃ notification primary,
    parseCovNotification packet = some notification ∧
      notification.processId = arguments.processId ∧
      notification.object = arguments.monitoredObject ∧
      notification.confirmed = arguments.confirmed ∧
      (arguments.confirmed = true →
        notification.invokeId = arguments.invokeId) ∧
      List.Forall₂ SameEntry notification.properties arguments.values ∧
      primaryEntry arguments.values = some primary ∧
      SameEntry notification.primary primary

/--
A built notification within the capacity of the receiver is received as it
was sent exactly where the type of the monitored object fits the ten bits of
the packed identifier and no entry has a list form; the builder checks
neither.
-/
theorem covReceived_iff
    {arguments : CovNotificationArguments}
    {bufferSize : Nat}
    {packet : List UInt8}
    (few : arguments.values.length ≤ kMaxCovNotificationProperties)
    (built : arguments.build bufferSize = some packet) :
    CovReceived arguments packet ↔
      arguments.monitoredObject.type ≤ 1023 ∧
        ∀ entry ∈ arguments.values, ¬entry.ReadsAsList := by
  obtain ⟨objectInstance, nonempty, octets, encodes, rfl⟩ :=
    CovNotificationArguments.build_eq_some built
  obtain ⟨accepted, refused⟩ :=
    parseCovNotification_packet encodes few nonempty
  obtain ⟨process, object, confirmed, invoke⟩ :=
    reportAll_header arguments.header false
      (arguments.values.map receivedEntry)
  rw [← decodeObjectId_encodeObjectId_eq_self_iff objectInstance]
  constructor
  · rintro ⟨notification, primary, parsed, _, sameObject, _⟩
    have single : ∀ entry ∈ arguments.values, ¬entry.ReadsAsList := by
      intro entry member listed
      rw [refused ⟨entry, member, listed⟩] at parsed
      cases parsed
    refine ⟨?_, single⟩
    rw [accepted single] at parsed
    obtain rfl := Option.some.inj parsed
    exact object.symm.trans sameObject
  · rintro ⟨packed, single⟩
    have properties :
        arguments.received.properties =
          arguments.values.map receivedEntry :=
      properties_reportAll arguments.header false (by
        rw [List.length_map]
        exact (Nat.zero_add _).trans_le few)
    have primaryOf :
        (primaryEntry arguments.values).map receivedEntry =
          some arguments.received.primary := by
      rw [← primaryEntry_received]
      exact primary_reportAll arguments.header
        (mt List.map_eq_nil_iff.mp nonempty)
    obtain ⟨primary, isPrimary, received⟩ :=
      Option.map_eq_some_iff.mp primaryOf
    obtain ⟨_, encodable⟩ :=
      encodes.encodable primary (mem_of_primaryEntry isPrimary)
    refine ⟨arguments.received, primary, accepted single, process,
      object.trans packed, confirmed, ?_, ?_, isPrimary, ?_⟩
    · intro isConfirmed
      exact invoke.trans (if_pos isConfirmed)
    · rw [properties]
      exact encodes.sameEntries
    · rw [← received]
      exact ⟨rfl, rfl, receivedValue_same encodable⟩

/-- A notification of an analog value and its status flags. -/
def presentValueNotification (objectType : UInt16) :
    CovNotificationArguments where
  processId := 18
  initiatingDevice := ⟨8, 1234⟩
  monitoredObject := ⟨objectType, 7⟩
  timeRemainingSeconds := 60
  values := [
    { property := .statusFlags, value := bitStringOf 0 4 },
    { property := .presentValue
      value := { type := .real, realValue := ⟨0x41480000⟩ } }]
  confirmed := true
  invokeId := 9

/-- A confirmed notification of two entries is received as it was sent. -/
theorem covReceived_iff_analogValue :
    ∃ packet,
      (presentValueNotification 2).build 64 = some packet ∧
      CovReceived (presentValueNotification 2) packet := by
  obtain ⟨packet, built⟩ :
      ∃ packet, (presentValueNotification 2).build 64 = some packet :=
    ⟨_, rfl⟩
  exact ⟨packet, built, (covReceived_iff (by decide) built).mpr (by decide)⟩

/-- An object of type 1024 is reported to the receiver as one of type 0. -/
theorem covReceived_not_wideType :
    ∃ packet,
      (presentValueNotification 1024).build 64 = some packet ∧
      ¬CovReceived (presentValueNotification 1024) packet := by
  have reported :
      ((((presentValueNotification 1024).build 64).bind
        parseCovNotification).map BacnetCovNotification.object) =
        some ⟨0, 7⟩ := by
    decide
  cases built : (presentValueNotification 1024).build 64 with
  | none =>
      rw [built] at reported
      cases reported
  | some packet =>
      refine ⟨packet, rfl, ?_⟩
      rintro ⟨notification, _, parsed, _, sameObject, _⟩
      rw [built, Option.bind_some, parsed, Option.map_some,
        sameObject] at reported
      exact absurd reported (by decide)

end BacnetStack
