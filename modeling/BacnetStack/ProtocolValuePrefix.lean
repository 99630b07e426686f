import BacnetStack.ProtocolListEnd

namespace BacnetStack

/-!
# Values and what follows

A value in front of its closing tag, or of any other octet, is read alike
whatever is behind that octet.  The lists are no exception: their loops run
as often as there are octets, but stop at the tag.
-/

open Reader

section Rules

variable {α β : Type} {taken left : Nat}

/-- What follows a reader that does not look ahead. -/
theorem Takes.followedBy
    {reader : Reader α}
    {continuation : α → Reader β}
    (first : Takes taken reader 0)
    (second : ∀ value, Takes 0 (continuation value) left) :
    Takes 0 (reader >>= continuation) left :=
  first.bind second (Nat.zero_le _) (Nat.zero_le _)

/-- Whether an octet follows is the same where octets are left. -/
theorem takes_ifMore
    {continues stops : Reader α}
    (takesContinues : Takes taken continues 1)
    (takesStops : Takes taken stops 0) :
    Takes taken (hasMore >>= fun more => if more then continues else stops)
      1 := by
  intro packet value rest read
  cases packet with
  | nil =>
      have shorter := takesStops.length_le (show stops.run [] = _ from read)
      rw [List.length_nil] at shorter
      exact ⟨shorter, fun leaves => absurd leaves (by omega)⟩
  | cons first others =>
      obtain ⟨shorter, same⟩ := takesContinues _ _ _ read
      exact ⟨shorter, fun leaves suffix => same leaves suffix⟩

/-- Looking for a tag takes nothing. -/
theorem takes_atContextTag
    (tagNumber : UInt8) :
    Takes 0 (atContextTag tagNumber) 1 :=
  takes_ifMore
    ((takes_peek.bind (fun _ => takes_pure _) le_rfl le_rfl).weaken
      le_rfl (Nat.zero_le 1))
    (takes_pure false)

/-- An optional field is followed by another octet. -/
theorem takes_optional_bind
    {tagNumber : UInt8}
    {present absent : Reader α}
    (takesPresent : Takes 0 present 1)
    (takesAbsent : Takes 0 absent 1) :
    Takes 0
      (atContextTag tagNumber >>= fun isPresent =>
        if isPresent then present else absent) 1 := by
  refine (takes_atContextTag tagNumber).bind (fun isPresent => ?_)
    le_rfl le_rfl
  split
  · exact takesPresent
  · exact takesAbsent

/-- How one round of a loop ends. -/
inductive Round (σ α : Type) where
  | continues (state : σ)
  | stops (value : α)

/-- The further rounds, if there are any. -/
def Round.rest {σ : Type}
    (further : σ → Reader α) : Round σ α → Reader α
  | .continues state => further state
  | .stops value => pure value

/--
A loop up to the closing tag with enough rounds for its octets: each round
takes some, and the octets behind the tag do not matter.
-/
theorem takes_loop
    {σ : Type}
    {loop : Nat → σ → Reader α}
    {round : σ → Reader (Round σ α)}
    {result : σ → α}
    (stopsAtOnce :
      ∀ state packet, (loop 0 state).run packet = .ok (result state, packet))
    (stopsAtEnd :
      ∀ rounds state,
        (loop (rounds + 1) state).run [] = .ok (result state, []))
    (stopsAtTag :
      ∀ rounds state others,
        (loop (rounds + 1) state).run (0x3F :: others) =
          .ok (result state, 0x3F :: others))
    (goesOn :
      ∀ rounds state first others, first ≠ 0x3F →
        (loop (rounds + 1) state).run (first :: others) =
          (round state >>= Round.rest (loop rounds)).run (first :: others))
    (takes : ∀ state, Takes 1 (round state) 0)
    (state : σ) :
    Takes 0 (remaining >>= fun length => loop length state) 1 := by
  have rounds_of_run {rounds more : Nat} {state : σ}
      {packet rest : List UInt8} {value : α}
      (read : (loop rounds state).run packet = .ok (value, rest))
      (enough : packet.length ≤ rounds)
      (enoughMore : packet.length ≤ more) :
      rest.length ≤ packet.length ∧
        (1 ≤ rest.length → ∀ suffix,
          (loop more state).run (packet ++ suffix) =
            .ok (value, rest ++ suffix)) := by
    induction rounds generalizing more state packet with
    | zero =>
        obtain rfl := List.length_eq_zero_iff.mp (Nat.le_zero.mp enough)
        rw [stopsAtOnce] at read
        cases read
        exact ⟨le_rfl, fun leaves => absurd leaves (Nat.not_succ_le_zero 0)⟩
    | succ rounds inductionHypothesis =>
        cases packet with
        | nil =>
            rw [stopsAtEnd] at read
            cases read
            exact
              ⟨le_rfl, fun leaves => absurd leaves (Nat.not_succ_le_zero 0)⟩
        | cons first others =>
            rw [List.length_cons] at enough enoughMore
            obtain ⟨more, rfl⟩ : ∃ fewer, more = fewer + 1 :=
              ⟨more - 1, by omega⟩
            by_cases closing : first = 0x3F
            · subst closing
              rw [stopsAtTag] at read
              cases read
              exact ⟨le_rfl, fun _ suffix =>
                stopsAtTag more state (others ++ suffix)⟩
            · rw [goesOn rounds state first others closing] at read
              obtain ⟨outcome, behind, readRound, read⟩ :=
                run_bind_eq_ok_iff.mp read
              have shorter := (takes state).length_le readRound
              rw [List.length_cons] at shorter
              have readMore (suffix : List UInt8) :=
                (takes state).run_append readRound (Nat.zero_le _) suffix
              simp only [List.cons_append] at readMore ⊢
              simp only [goesOn more state first _ closing,
                run_bind_of_ok (readMore _)]
              rw [List.length_cons]
              cases outcome with
              | continues next =>
                  obtain ⟨others_le, same⟩ :=
                    @inductionHypothesis more next behind read
                      (by omega) (by omega)
                  exact ⟨by omega, same⟩
              | stops value =>
                  cases read
                  exact ⟨by omega, fun _ _ => rfl⟩
  intro packet value rest read
  obtain ⟨shorter, _⟩ := rounds_of_run read le_rfl le_rfl
  refine ⟨shorter, fun leaves suffix => ?_⟩
  rw [run_bind_of_ok (run_remaining _)]
  refine (rounds_of_run read le_rfl ?_).2 leaves suffix
  rw [List.length_append]
  exact Nat.le_add_right _ _

end Rules

section Values

/-- The length of a value, in its tag or behind it. -/
theorem takes_readLengthField
    (lvt : UInt8) :
    Takes 0 (readLengthField lvt) 0 := by
  unfold readLengthField
  split
  · exact takes_pure _
  split
  · exact takes_checkedNext.bind (fun _ => takes_pure _)
      (Nat.zero_le _) (Nat.zero_le _)
  · exact takes_reject

/-- The announced octets are there with more octets behind as well. -/
theorem takes_readApplicationTagHeader
    (expectedTag : UInt8) :
    Takes 0 (readApplicationTagHeader expectedTag) 0 := by
  refine takes_checkedNext.followedBy fun tag => ?_
  refine takes_require_bind fun _ => ?_
  refine (takes_readLengthField _).followedBy fun valueLength => ?_
  refine takes_require_remaining_bind
    (fun length longer longerIs passes => ?_) (takes_pure valueLength)
  simp only [decide_eq_true_eq] at passes ⊢
  exact passes.trans longerIs

/-- A value that is made of what was read before. -/
theorem takes_value
    (value : BacnetValue) :
    Takes 0 (pure value) 1 :=
  (takes_pure value).weaken le_rfl (Nat.zero_le 1)

theorem takes_parseApplicationNull :
    Takes 0 parseApplicationNull 1 :=
  (takes_readApplicationTagHeader 0).followedBy fun _ =>
    takes_require_bind fun _ => takes_value _

theorem takes_parseApplicationBoolean :
    Takes 0 parseApplicationBoolean 1 :=
  takes_checkedNext.followedBy fun _ =>
    takes_require_bind fun _ => takes_value _

/-- An Unsigned, where an octet is left behind it. -/
theorem takes_parseApplicationUnsigned
    (expectedTag : UInt8) :
    Takes 0 (parseApplicationUnsigned expectedTag) 1 :=
  (takes_readApplicationValue expectedTag).followedBy fun _ =>
    takes_value _

theorem takes_parseApplicationSigned :
    Takes 0 parseApplicationSigned 1 := by
  refine takes_checkedNext.followedBy fun tag => ?_
  refine takes_require_remaining_bind
    (fun length longer longerIs passes => ?_)
    ((takes_bigEndian (tag &&& 0x07).toNat 0).followedBy fun _ =>
      takes_value _)
  simp only [Bool.and_eq_true, decide_eq_true_eq] at passes ⊢
  exact ⟨passes.1, passes.2.trans longerIs⟩

theorem takes_parseApplicationReal :
    Takes 0 parseApplicationReal 1 :=
  (takes_readApplicationTagHeader 4).followedBy fun _ =>
    takes_require_bind fun _ =>
      (takes_bigEndian 4 0).followedBy fun _ => takes_value _

theorem takes_parseApplicationBitString :
    Takes 0 parseApplicationBitString 1 := by
  refine (takes_readApplicationTagHeader 8).followedBy fun valueLength => ?_
  refine takes_require_bind fun _ => ?_
  refine takes_next.followedBy fun unusedBits => ?_
  refine takes_require_bind fun _ => ?_
  refine (takes_takeBytes _).followedBy fun octets => ?_
  exact takes_require_bind fun _ => takes_value _

theorem takes_parseApplicationObjectIdentifier :
    Takes 0 parseApplicationObjectIdentifier 1 :=
  (takes_readApplicationValue 12).followedBy fun _ => takes_value _

theorem takes_parseApplicationCharacterString :
    Takes 0 parseApplicationCharacterString 1 := by
  refine (takes_readApplicationTagHeader 7).followedBy fun length => ?_
  refine takes_require_bind fun _ => ?_
  refine (takes_skip 1).bind (fun _ => ?_) le_rfl le_rfl
  exact (takes_takeBytes (length - 1)).followedBy fun _ => takes_value _

theorem takes_parseUnsupportedApplicationValue :
    Takes 0 parseUnsupportedApplicationValue 1 := by
  refine takes_checkedNext.followedBy fun tag => ?_
  refine takes_require_bind fun _ => ?_
  refine (takes_readLengthField _).followedBy fun valueLength => ?_
  refine (@takes_checkedSkip_bind _ 0 _ valueLength _ ?_).weaken
    (Nat.zero_le _) le_rfl
  exact (takes_ofText _).followedBy fun _ => takes_value _

/-- A value of any tag, where an octet is left behind it. -/
theorem takes_parseTaggedApplicationValue :
    Takes 0 parseTaggedApplicationValue 1 := by
  refine takes_peek.followedBy fun first => ?_
  dsimp only
  split
  · exact takes_parseApplicationNull
  split
  · exact takes_parseApplicationBoolean
  split
  · exact takes_parseApplicationUnsigned 2
  split
  · exact takes_parseApplicationSigned
  split
  · exact takes_parseApplicationReal
  split
  · exact takes_parseApplicationCharacterString
  split
  · exact takes_parseApplicationBitString
  split
  · exact takes_parseApplicationUnsigned 9
  split
  · exact takes_parseApplicationObjectIdentifier
  · exact takes_parseUnsupportedApplicationValue

/-- A round of the list of identifiers. -/
def objectRound
    (used : List UInt8) : Reader (Round (List UInt8) (List UInt8)) := do
  let identifier ← readApplicationValue 12
  return match appendObjectId used (decodeObjectId identifier) with
    | (used, true) => .continues used
    | (used, false) => .stops used

/-- The text of a list in front of a further entry. -/
def separatedText
    (used : List UInt8) : Reader (List UInt8) :=
  if used.isEmpty then
    pure used
  else
    Reader.ofText (appendText kMaxTextLength used (asciiBytes ";"))

/-- A round of the list of properties. -/
def propertyRound
    (used : List UInt8) : Reader (Round (List UInt8) (List UInt8)) := do
  let propertyIdentifier ← readApplicationValue 9
  let separated ← separatedText used
  let extended ← Reader.ofText
    (appendUnsignedDecimal kMaxTextLength separated propertyIdentifier)
  return .continues extended

/-- Each round of an object list takes an octet at least. -/
theorem takes_objectRound
    (used : List UInt8) :
    Takes 1 (objectRound used) 0 :=
  (takes_readApplicationValue 12).bind (fun _ => takes_pure _)
    (Nat.zero_le _) le_rfl

/-- Each round of a property list takes an octet at least. -/
theorem takes_propertyRound
    (used : List UInt8) :
    Takes 1 (propertyRound used) 0 := by
  refine (takes_readApplicationValue 9).bind (fun property => ?_)
    (Nat.zero_le (0 + 0)) le_rfl
  have separator : Takes 0 (separatedText used) 0 := by
    unfold separatedText
    split
    · exact takes_pure used
    · exact takes_ofText _
  refine separator.followedBy fun separated => ?_
  exact (takes_ofText _).followedBy fun _ => takes_pure _

/-- An identifier behind the first octet of a round. -/
theorem run_objectIdentifierListText_cons
    (rounds : Nat)
    (used : List UInt8)
    {first : UInt8}
    (opened : first ≠ 0x3F)
    (others : List UInt8) :
    (objectIdentifierListText (rounds + 1) used).run (first :: others) =
      (objectRound used >>= Round.rest (objectIdentifierListText rounds)).run
        (first :: others) := by
  have more : (first != 0x3F) = true := bne_iff_ne.mpr opened
  rw [objectIdentifierListText, run_bind_of_ok (run_hasMore _)]
  change (peek >>= _).run _ = _
  rw [run_bind_of_ok (run_peek_cons _ _), more, objectRound, bind_assoc]
  change (readApplicationValue 12 >>= _).run _ =
    (readApplicationValue 12 >>= _).run _
  congr 2
  funext identifier
  rw [pure_bind]
  dsimp only
  cases appendObjectId used (decodeObjectId identifier) with
  | mk longer appended => cases appended <;> rfl

/-- A property behind the first octet of a round. -/
theorem run_propertyIdentifierListText_cons
    (rounds : Nat)
    (used : List UInt8)
    {first : UInt8}
    (opened : first ≠ 0x3F)
    (others : List UInt8) :
    (propertyIdentifierListText (rounds + 1) used).run (first :: others) =
      (propertyRound used >>= Round.rest (propertyIdentifierListText rounds)).run
        (first :: others) := by
  have more : (first != 0x3F) = true := bne_iff_ne.mpr opened
  rw [propertyIdentifierListText, run_bind_of_ok (run_hasMore _)]
  change (peek >>= _).run _ = _
  rw [run_bind_of_ok (run_peek_cons _ _), more, propertyRound]
  simp only [bind_assoc, pure_bind]
  change (readApplicationValue 9 >>= _).run _ = _
  congr 2
  funext property
  unfold separatedText
  split <;> rfl

/-- A list of objects, where an octet is left behind it. -/
theorem takes_parseApplicationObjectIdentifierList :
    Takes 0 parseApplicationObjectIdentifierList 1 := by
  have loop :=
    @takes_loop _ _ objectIdentifierListText objectRound id
      (fun _ _ => rfl) (fun _ _ => rfl) (fun _ _ _ => rfl)
      (fun rounds used _ others opened =>
        run_objectIdentifierListText_cons rounds used opened others)
      takes_objectRound []
  have whole :
      parseApplicationObjectIdentifierList =
        (remaining >>= fun length => objectIdentifierListText length []) >>=
          fun used => require (!used.isEmpty) >>= fun _ =>
            pure { type := .objectIdentifierList, text := used } := by
    rw [bind_assoc]
    rfl
  rw [whole]
  exact loop.bind
    (fun _ => takes_require_bind fun _ => takes_value _) le_rfl le_rfl

theorem takes_parseApplicationPropertyIdentifierList :
    Takes 0 parseApplicationPropertyIdentifierList 1 := by
  have loop :=
    @takes_loop _ _ propertyIdentifierListText propertyRound id
      (fun _ _ => rfl) (fun _ _ => rfl) (fun _ _ _ => rfl)
      (fun rounds used _ others opened =>
        run_propertyIdentifierListText_cons rounds used opened others)
      takes_propertyRound []
  have whole :
      parseApplicationPropertyIdentifierList =
        (remaining >>= fun length =>
          propertyIdentifierListText length []) >>=
          fun used => require (!used.isEmpty) >>= fun _ =>
            pure { type := .propertyIdentifierList, text := used } := by
    rw [bind_assoc]
    rfl
  rw [whole]
  exact loop.bind
    (fun _ => takes_require_bind fun _ => takes_value _) le_rfl le_rfl

/-- A value in front of its closing tag. -/
theorem takes_parseReadPropertyApplicationValue
    (property : BacnetPropertyId)
    (arrayIndex : UInt32) :
    Takes 0 (parseReadPropertyApplicationValue property arrayIndex) 1 := by
  refine takes_require_hasMore_bind ?_
  refine takes_peek.followedBy fun first => ?_
  split
  · exact takes_parseApplicationUnsigned 2
  split
  · split
    · exact takes_parseApplicationObjectIdentifier
    · exact takes_parseApplicationObjectIdentifierList
  split
  · exact takes_parseApplicationPropertyIdentifierList
  split
  · exact takes_value _
  · exact takes_parseTaggedApplicationValue

end Values

section Responses

theorem takes_readResponseArrayIndex
    (expectedArrayIndex : UInt32) :
    Takes 0 (readResponseArrayIndex expectedArrayIndex) 1 := by
  refine takes_optional_bind ?_ ?_
  · exact (takes_readContextValue 2).followedBy fun _ =>
      takes_require_bind fun _ =>
        (takes_pure _).weaken le_rfl (Nat.zero_le 1)
  · exact takes_require_bind fun _ =>
      (takes_pure _).weaken le_rfl (Nat.zero_le 1)

/-- The property that was asked for. -/
theorem takes_readAcknowledgedProperty
    (expectedRequest : BacnetPropertyRequest) :
    Takes 0 (readAcknowledgedProperty expectedRequest) 0 := by
  refine (takes_readContextValue 0).followedBy fun _ => ?_
  refine takes_require_bind fun _ => ?_
  exact (takes_readContextValue 1).followedBy fun _ => takes_require _

theorem takes_readOptionalContextValue
    (expectedTag : UInt8)
    (absent : UInt32) :
    Takes 0 (readOptionalContextValue expectedTag absent) 1 :=
  takes_optional_bind
    ((takes_readContextValue expectedTag).weaken (Nat.zero_le _)
      (Nat.zero_le 1))
    ((takes_pure absent).weaken le_rfl (Nat.zero_le 1))

/-- Three octets of the expected response, behind the headers. -/
def readResponseOctets
    (apduType service expectedInvokeId : UInt8) : Reader Unit := do
  readNpduHeader
  require (decide (3 ≤ (← remaining)))
  require ((← next) &&& 0xF0 == apduType)
  require ((← next) == expectedInvokeId)
  require ((← next) == service)

theorem takes_readResponseOctets
    (apduType service expectedInvokeId : UInt8) :
    Takes 0 (readResponseOctets apduType service expectedInvokeId) 0 := by
  refine (takes_readNpduHeader.followedBy fun _ => ?_)
  refine takes_require_remaining_bind
    (fun length longer longerIs passes => ?_) ?_
  · simp only [decide_eq_true_eq] at passes ⊢
    exact passes.trans longerIs
  · refine takes_next.followedBy fun _ => takes_require_bind fun _ => ?_
    refine takes_next.followedBy fun _ => takes_require_bind fun _ => ?_
    exact takes_next.followedBy fun _ => takes_require _

/-- The hop count is skipped where a packet goes on behind the header. -/
theorem takes_readIAmNpduHeader : Takes 0 readIAmNpduHeader 1 := by
  refine (takes_expect kNpduVersion).followedBy fun _ => ?_
  refine takes_checkedNext.followedBy fun npduControl => ?_
  refine takes_require_bind fun _ => ?_
  have source :
      Takes 0
        (if npduControl &&& 0x08 != 0 then skipNpduAddress else pure ())
        1 := by
    split
    · exact takes_skipNpduAddress.weaken (Nat.zero_le _) (Nat.zero_le 1)
    · exact (takes_pure ()).weaken le_rfl (Nat.zero_le 1)
  dsimp only
  split
  · refine takes_skipNpduAddress.followedBy fun _ => ?_
    exact (takes_skip 1).bind (fun _ => source) le_rfl le_rfl
  · exact source

/-- The fields of an I-Am. -/
def iAmFields : Reader BacnetIAmDeviceInfo := do
  require (decide (2 ≤ (← remaining)))
  expect kApduUnconfirmedRequest
  expect kServiceIAm
  let objectIdentifier ← readApplicationValue 12
  require (objectIdentifier >>> 22 == BacnetObjectType.device.toUInt32)
  let maxApduLengthAccepted ← readApplicationValue 2
  let segmentationSupported ← readApplicationValue 9
  require (decide (segmentationSupported ≤ 0xFF))
  let vendorId ← readApplicationValue 2
  require (decide (vendorId ≤ 0xFFFF))
  return {
    deviceInstance := objectIdentifier &&& kObjectInstanceMask
    maxApduLengthAccepted := maxApduLengthAccepted
    segmentationSupported := segmentationSupported.toUInt8
    vendorId := vendorId.toUInt16
  }

/-- The fields of an I-Am. -/
theorem takes_iAmFields : Takes 1 iAmFields 0 := by
  refine takes_require_remaining_bind
    (fun length longer longerIs passes => ?_) ?_
  · simp only [decide_eq_true_eq] at passes ⊢
    exact passes.trans longerIs
  refine (takes_expect _).bind (fun _ => ?_) (Nat.zero_le (0 + 0)) le_rfl
  refine (takes_expect _).followedBy fun _ => ?_
  refine (takes_readApplicationValue 12).followedBy fun _ => ?_
  refine takes_require_bind fun _ => ?_
  refine (takes_readApplicationValue 2).followedBy fun _ => ?_
  refine (takes_readApplicationValue 9).followedBy fun _ => ?_
  refine takes_require_bind fun _ => ?_
  refine (takes_readApplicationValue 2).followedBy fun _ => ?_
  exact takes_require_bind fun _ => takes_pure _

/-- The value of an acknowledgement behind its array index. -/
def acknowledgedValue
    (property : BacnetPropertyId)
    (responseArrayIndex : UInt32) : Reader BacnetValue := do
  expect 0x3E
  parseReadPropertyApplicationValue property responseArrayIndex

/-- A value, a list of objects or a list of properties. -/
theorem takes_acknowledgedValue
    (property : BacnetPropertyId)
    (responseArrayIndex : UInt32) :
    Takes 0 (acknowledgedValue property responseArrayIndex) 1 :=
  (takes_expect 0x3E).followedBy fun _ =>
    takes_parseReadPropertyApplicationValue _ _

/-- An acknowledgement of the expected request behind its link header. -/
def readPropertyAckBody
    (expectedInvokeId : UInt8)
    (expectedRequest : BacnetPropertyRequest) : Reader BacnetValue := do
  readResponseOctets kApduComplexAck kServiceReadProperty expectedInvokeId
  readAcknowledgedProperty expectedRequest
  let responseArrayIndex ←
    readResponseArrayIndex expectedRequest.arrayIndex
  acknowledgedValue expectedRequest.property responseArrayIndex

/-- What follows the header of an acknowledgement. -/
theorem takes_readPropertyAckBody
    (expectedInvokeId : UInt8)
    (expectedRequest : BacnetPropertyRequest) :
    Takes 0 (readPropertyAckBody expectedInvokeId expectedRequest) 1 := by
  refine (takes_readResponseOctets _ _ _).followedBy fun _ => ?_
  refine (takes_readAcknowledgedProperty _).followedBy fun _ => ?_
  exact (takes_readResponseArrayIndex _).bind
    (fun _ => takes_acknowledgedValue _ _) le_rfl le_rfl

/-- An acknowledgement of any object behind its link header. -/
def readPropertyAckBodyOf
    (expectedInvokeId : UInt8)
    (expectedProperty : BacnetPropertyId) : Reader BacnetValue := do
  readResponseOctets kApduComplexAck kServiceReadProperty expectedInvokeId
  let _objectIdentifier ← readContextValue 0
  let propertyIdentifier ← readContextValue 1
  require (propertyIdentifier == expectedProperty.raw)
  let responseArrayIndex ← readOptionalContextValue 2 kBacnetNoArrayIndex
  acknowledgedValue expectedProperty responseArrayIndex

theorem takes_readPropertyAckBodyOf
    (expectedInvokeId : UInt8)
    (expectedProperty : BacnetPropertyId) :
    Takes 0 (readPropertyAckBodyOf expectedInvokeId expectedProperty)
      1 := by
  refine (takes_readResponseOctets _ _ _).followedBy fun _ => ?_
  refine (takes_readContextValue 0).followedBy fun _ => ?_
  refine (takes_readContextValue 1).followedBy fun _ => ?_
  refine takes_require_bind fun _ => ?_
  exact (takes_readOptionalContextValue _ _).bind
    (fun _ => takes_acknowledgedValue _ _) le_rfl le_rfl

end Responses

end BacnetStack
