import BacnetStack.FaultAvoidance
import BacnetStack.ProtocolResponseDecode

namespace BacnetStack

/-!
# How far the readers read

A packet announces addresses, tags and lengths as it likes.  A reader that is
started with enough unread octets never reads behind the packet; what is
enough for each reader is stated next to it, and the readers behind a length
check of the source need nothing.
-/

open Reader

/--
With `needed` unread octets the reader stays inside the packet, and where it
succeeds at least `left` octets are unread.
-/
def Reads {α : Type}
    (needed : Nat)
    (reader : Reader α)
    (left : Nat) : Prop :=
  Avoids .outOfRange (fun unread => needed ≤ unread.length) reader
    (fun _ unread => left ≤ unread.length)

section Rules

variable {α β : Type} {needed middle left count : Nat}

/-- A reader starts where the one before it stopped. -/
theorem Reads.bind
    {reader : Reader α}
    {continuation : α → Reader β}
    (first : Reads needed reader middle)
    (second : ∀ value, Reads middle (continuation value) left) :
    Reads needed (reader >>= continuation) left :=
  Avoids.bind first second

/-- More unread octets do not hurt, and fewer may be promised. -/
theorem Reads.weaken
    {needed' left' : Nat}
    {reader : Reader α}
    (reads : Reads needed reader left)
    (more : needed ≤ needed')
    (fewer : left' ≤ left) :
    Reads needed' reader left' :=
  Avoids.weaken reads (fun _ => more.trans) fun _ _ => fewer.trans

/-- A reader that needs nothing never reads behind the packet. -/
theorem Reads.run_ne
    {reader : Reader α}
    (reads : Reads 0 reader left)
    (octets : List UInt8) :
    reader.run octets ≠ .error .outOfRange :=
  Avoids.run_ne reads (Nat.zero_le octets.length)

/-- Returning a value reads nothing. -/
theorem reads_pure
    (value : α) :
    Reads needed (pure value) needed :=
  Avoids.pure value fun _ start => start

/-- A failed check is no read behind the packet. -/
theorem reads_reject :
    Reads needed (reject : Reader α) left :=
  Avoids.throw ReadFault.noConfusion

/-- A check reads nothing. -/
theorem reads_require
    (holds : Bool) :
    Reads needed (require holds) needed := by
  cases holds
  · exact reads_reject
  · exact reads_pure ()

/-- Taking an octet needs one. -/
theorem reads_next : Reads (needed + 1) next needed := by
  intro unread enough
  cases unread with
  | nil => exact absurd enough (Nat.not_succ_le_zero _)
  | cons octet rest => exact Nat.le_of_succ_le_succ enough

/-- Looking at an octet needs one and leaves it. -/
theorem reads_peek : Reads (needed + 1) peek (needed + 1) := by
  intro unread enough
  cases unread with
  | nil => exact absurd enough (Nat.not_succ_le_zero _)
  | cons octet rest => exact enough

/-- Skipping octets reads none of them. -/
theorem reads_skip
    (count : Nat) :
    Reads (needed + count) (skip count) needed := by
  intro unread enough
  change needed ≤ (unread.drop count).length
  rw [List.length_drop]
  omega

/-- A check of the unread length is followed by readers that need it. -/
theorem reads_require_remaining_bind
    {holds : Nat → Bool}
    {continuation : Nat → Unit → Reader α}
    (enough : ∀ length, holds length = true → middle ≤ length)
    (continues : ∀ length, Reads middle (continuation length ()) left) :
    Reads needed
      (remaining >>= fun length =>
        require (holds length) >>= continuation length) left := by
  intro unread _
  have measured :
      (remaining >>= fun length =>
        require (holds length) >>= continuation length).run unread =
        (require (holds unread.length) >>=
          continuation unread.length).run unread :=
    rfl
  rw [measured]
  cases passes : holds unread.length with
  | false => exact ReadFault.noConfusion
  | true => exact continues _ unread (enough _ passes)

/-- Measuring the unread octets reads none of them. -/
theorem reads_remaining_bind
    {continuation : Nat → Reader α}
    (continues : ∀ length, Reads needed (continuation length) left) :
    Reads needed (remaining >>= continuation) left :=
  fun unread enough => continues unread.length unread enough

/-- Where octets are left, one of them may be read. -/
theorem reads_hasMore_bind
    {continuation : Bool → Reader α}
    (more : Reads 1 (continuation true) left)
    (none : Reads 0 (continuation false) left) :
    Reads needed (hasMore >>= continuation) left := by
  intro unread _
  cases unread with
  | nil => exact none [] le_rfl
  | cons octet rest =>
      exact more (octet :: rest) (Nat.succ_le_succ (Nat.zero_le _))

/-- What follows a check is read only where the check passed. -/
theorem reads_require_bind
    {holds : Bool}
    {continuation : Unit → Reader α}
    (continues : holds = true → Reads needed (continuation ()) left) :
    Reads needed (require holds >>= continuation) left := by
  cases holds with
  | false => exact fun _ _ => ReadFault.noConfusion
  | true => exact continues rfl

/-- A checked octet needs nothing. -/
theorem reads_checkedNext : Reads needed checkedNext 0 :=
  reads_hasMore_bind
    (reads_require_bind fun _ => reads_next)
    (reads_require_bind nofun)

/-- An expected octet needs nothing. -/
theorem reads_expect
    (octet : UInt8) :
    Reads needed (expect octet) 0 :=
  reads_checkedNext.bind fun _ => reads_require _

/-- A number needs its octets. -/
theorem reads_bigEndian
    (count : Nat)
    (value : UInt32) :
    Reads (left + count) (bigEndian count value) left := by
  induction count generalizing value with
  | zero => exact reads_pure value
  | succ count inductionHypothesis =>
      exact reads_next.bind fun _ => inductionHypothesis _

/-- Octets that are taken are needed. -/
theorem reads_takeBytes
    (count : Nat) :
    Reads (left + count) (takeBytes count) left := by
  induction count with
  | zero => exact reads_pure []
  | succ count inductionHypothesis =>
      exact reads_next.bind fun _ =>
        inductionHypothesis.bind fun _ => reads_pure _

/-- A text that fits its buffer reads nothing. -/
theorem reads_ofText
    (text : Option (List UInt8)) :
    Reads needed (Reader.ofText text) needed := by
  cases text with
  | none => exact reads_reject
  | some text => exact reads_pure text

/-- The end of the packet reads nothing. -/
theorem reads_atEnd : Reads needed atEnd 0 :=
  reads_hasMore_bind
    ((reads_require _).weaken le_rfl (Nat.zero_le _)) (reads_require _)

/-- A field that is read or left at a default. -/
theorem reads_optional_bind
    {selected : Bool}
    {reader : Reader α}
    {absent : α}
    {continuation : α → Reader β}
    (present : Reads needed reader middle)
    (fewer : middle ≤ needed)
    (continues : ∀ value, Reads middle (continuation value) left) :
    Reads needed
      (if selected then reader >>= continuation
        else pure absent >>= continuation) left := by
  split
  · exact present.bind continues
  · exact ((reads_pure absent).weaken le_rfl fewer).bind continues

/-- Where a context tag is found, it may be read again. -/
theorem reads_atContextTag_bind
    {tagNumber : UInt8}
    {continuation : Bool → Reader α}
    (present : Reads 1 (continuation true) left)
    (absent : Reads 0 (continuation false) left) :
    Reads needed (atContextTag tagNumber >>= continuation) left := by
  intro unread _
  cases unread with
  | nil => exact absent [] le_rfl
  | cons octet rest =>
      have found :
          (atContextTag tagNumber >>= continuation).run (octet :: rest) =
            (continuation
              (octet >>> 4 == tagNumber && isContextTag octet)).run
              (octet :: rest) :=
        rfl
      rw [found]
      cases octet >>> 4 == tagNumber && isContextTag octet with
      | false => exact absent _ (Nat.zero_le _)
      | true => exact present _ (Nat.succ_le_succ (Nat.zero_le _))

/-- Looking for a context tag needs nothing. -/
theorem reads_atContextTag
    {tagNumber : UInt8} :
    Reads needed (atContextTag tagNumber) 0 :=
  reads_hasMore_bind
    ((show Reads 1 peek 1 from reads_peek).bind fun _ =>
      (reads_pure _).weaken le_rfl (Nat.zero_le _))
    (reads_pure false)

end Rules

section Fields

variable {needed : Nat}

/-- A number behind a tag is checked to be there. -/
theorem reads_readApplicationValue
    (expectedTag : UInt8) :
    Reads needed (readApplicationValue expectedTag) 0 := by
  refine reads_checkedNext.bind fun tag => ?_
  refine reads_require_remaining_bind (fun length passes => ?_)
    fun _ => (reads_bigEndian (tag &&& 0x07).toNat 0).weaken
      (Nat.zero_add _).le le_rfl
  exact of_decide_eq_true (Bool.and_eq_true _ _ ▸ passes).2

/-- A number behind a context tag is checked to be there. -/
theorem reads_readContextValue
    (expectedTag : UInt8) :
    Reads needed (readContextValue expectedTag) 0 := by
  refine reads_checkedNext.bind fun tag => ?_
  refine reads_require_remaining_bind (fun length passes => ?_)
    fun _ => (reads_bigEndian (tag &&& 0x07).toNat 0).weaken
      (Nat.zero_add _).le le_rfl
  exact of_decide_eq_true (Bool.and_eq_true _ _ ▸ passes).2

/-- A floating-point number behind a context tag is checked to be there. -/
theorem reads_readContextReal
    (expectedTag : UInt8) :
    Reads needed (readContextReal expectedTag) 0 := by
  refine reads_checkedNext.bind fun tag => ?_
  refine reads_require_remaining_bind (fun length passes => ?_)
    fun _ => (reads_bigEndian 4 0).bind fun _ => reads_pure _
  exact of_decide_eq_true (Bool.and_eq_true _ _ ▸ passes).2

/-- An optional number needs nothing. -/
theorem reads_readOptionalContextValue
    (expectedTag : UInt8)
    (absent : UInt32) :
    Reads needed (readOptionalContextValue expectedTag absent) 0 :=
  reads_atContextTag_bind (reads_readContextValue expectedTag)
    (reads_pure absent)

/-- A length field is checked to be there. -/
theorem reads_readLengthField
    (lvt : UInt8) :
    Reads needed (readLengthField lvt) 0 := by
  unfold readLengthField
  split
  · exact (reads_pure _).weaken (Nat.zero_le _) le_rfl
  · split
    · exact reads_checkedNext.bind fun _ => reads_pure _
    · exact reads_reject

/-- Behind a tag header the announced octets are there. -/
theorem reads_readApplicationTagHeader_bind
    {α : Type}
    {expectedTag : UInt8}
    {continuation : Nat → Reader α}
    (continues :
      ∀ valueLength, Reads valueLength (continuation valueLength) 0) :
    Reads needed (readApplicationTagHeader expectedTag >>= continuation)
      0 := by
  have header :
      readApplicationTagHeader expectedTag >>= continuation =
        checkedNext >>= fun tag =>
          require (!isContextTag tag && tag >>> 4 == expectedTag) >>=
            fun _ =>
              readLengthField (tag &&& 0x07) >>= fun valueLength =>
                remaining >>= fun length =>
                  require (decide (valueLength ≤ length)) >>= fun _ =>
                    continuation valueLength := by
    simp only [readApplicationTagHeader, bind_assoc, pure_bind]
  rw [header]
  refine reads_checkedNext.bind fun tag => ?_
  refine reads_require_bind fun _ => ?_
  refine (reads_readLengthField _).bind fun valueLength => ?_
  exact reads_require_remaining_bind
    (fun _ passes => of_decide_eq_true passes)
    fun _ => continues valueLength

/-- The link header is read behind a check of its length. -/
theorem reads_readBvlcHeader
    {minimumLength : Nat}
    (atLeastHeader : 4 ≤ minimumLength)
    (acceptBroadcast : Bool) :
    Reads needed (readBvlcHeader minimumLength acceptBroadcast) 0 := by
  refine reads_require_remaining_bind
    (fun _ passes => atLeastHeader.trans (of_decide_eq_true passes))
    fun _ => ?_
  refine reads_next.bind fun _ => ?_
  refine reads_next.bind fun _ => ?_
  refine reads_next.bind fun _ => ?_
  refine reads_next.bind fun _ => ?_
  exact reads_require _

/-- An address is read behind a check of its length. -/
theorem reads_skipNpduAddress : Reads needed skipNpduAddress 0 := by
  refine reads_require_remaining_bind
    (fun _ passes => of_decide_eq_true passes) fun _ => ?_
  refine (reads_skip 2).bind fun _ => ?_
  refine reads_next.bind fun addressLength => ?_
  exact reads_require_remaining_bind
    (fun _ passes => of_decide_eq_true passes)
    fun _ => (reads_skip addressLength.toNat).weaken
      (Nat.zero_add _).le le_rfl

/-- The network header needs nothing. -/
theorem reads_readNpduHeader : Reads needed readNpduHeader 0 := by
  refine (reads_expect kNpduVersion).bind fun _ => ?_
  refine reads_checkedNext.bind fun npduControl => ?_
  refine reads_require_bind fun _ => ?_
  have destination :
      Reads 0
        (if npduControl &&& 0x08 != 0 then skipNpduAddress else pure ())
        0 := by
    split
    · exact reads_skipNpduAddress
    · exact reads_pure ()
  dsimp only
  split
  · refine reads_skipNpduAddress.bind fun _ => ?_
    refine reads_hasMore_bind ?_ (reads_require_bind nofun)
    refine reads_require_bind fun _ => ?_
    exact (reads_skip 1).bind fun _ => destination
  · exact destination

end Fields

section Values

variable {needed : Nat}

theorem reads_parseApplicationNull :
    Reads needed parseApplicationNull 0 :=
  reads_readApplicationTagHeader_bind fun _ =>
    reads_require_bind fun _ =>
      (reads_pure _).weaken (Nat.zero_le _) le_rfl

theorem reads_parseApplicationBoolean :
    Reads needed parseApplicationBoolean 0 :=
  reads_checkedNext.bind fun _ =>
    (reads_require _).bind fun _ => reads_pure _

theorem reads_parseApplicationUnsigned
    (expectedTag : UInt8) :
    Reads needed (parseApplicationUnsigned expectedTag) 0 :=
  (reads_readApplicationValue expectedTag).bind fun _ => reads_pure _

theorem reads_parseApplicationSigned :
    Reads needed parseApplicationSigned 0 := by
  refine reads_checkedNext.bind fun tag => ?_
  refine reads_require_remaining_bind (fun length passes => ?_) fun _ =>
    ((reads_bigEndian (tag &&& 0x07).toNat 0).weaken
      (Nat.zero_add _).le le_rfl).bind fun _ => reads_pure _
  exact of_decide_eq_true (Bool.and_eq_true _ _ ▸ passes).2

theorem reads_parseApplicationReal :
    Reads needed parseApplicationReal 0 := by
  refine reads_readApplicationTagHeader_bind fun valueLength => ?_
  refine reads_require_bind fun four => ?_
  rw [beq_iff_eq.mp four]
  exact (reads_bigEndian 4 0).bind fun _ => reads_pure _

/-- The tag header leaves as many octets as the bit string has. -/
theorem reads_parseApplicationBitString :
    Reads needed parseApplicationBitString 0 := by
  refine reads_readApplicationTagHeader_bind fun valueLength => ?_
  refine reads_require_bind fun two => ?_
  have split : valueLength - 1 + 1 = valueLength := by
    have atLeast := of_decide_eq_true two
    omega
  rw [← split]
  refine reads_next.bind fun unusedBits => ?_
  refine reads_require_bind fun _ => ?_
  refine ((reads_takeBytes (valueLength - 1 + 1 - 1)).weaken
    (Nat.zero_add _).le le_rfl).bind fun _ => ?_
  exact (reads_require _).bind fun _ => reads_pure _

theorem reads_parseApplicationObjectIdentifier :
    Reads needed parseApplicationObjectIdentifier 0 :=
  (reads_readApplicationValue 12).bind fun _ => reads_pure _

/-- The tag header leaves as many octets as the string has. -/
theorem reads_parseApplicationCharacterString :
    Reads needed parseApplicationCharacterString 0 := by
  refine reads_readApplicationTagHeader_bind fun stringLength => ?_
  refine reads_require_bind fun nonempty => ?_
  have split : 0 + (stringLength - 1) + 1 = stringLength := by
    have positive := bne_iff_ne.mp nonempty
    omega
  refine ((reads_skip 1).weaken split.le le_rfl).bind fun _ => ?_
  exact (reads_takeBytes (stringLength - 1)).bind fun _ => reads_pure _

theorem reads_parseUnsupportedApplicationValue :
    Reads needed parseUnsupportedApplicationValue 0 := by
  refine reads_checkedNext.bind fun tag => ?_
  refine (reads_require _).bind fun _ => ?_
  refine (reads_readLengthField _).bind fun valueLength => ?_
  refine reads_require_remaining_bind
    (fun _ passes => of_decide_eq_true passes) fun _ => ?_
  refine ((reads_skip valueLength).weaken
    (Nat.zero_add _).le le_rfl).bind fun _ => ?_
  exact (reads_ofText _).bind fun _ => reads_pure _

/-- Every round of a list of identifiers checks for its octets. -/
theorem reads_objectIdentifierListText
    (rounds : Nat)
    (used : List UInt8) :
    Reads needed (objectIdentifierListText rounds used) 0 := by
  induction rounds generalizing needed used with
  | zero => exact (reads_pure used).weaken (Nat.zero_le _) le_rfl
  | succ rounds inductionHypothesis =>
      refine reads_hasMore_bind ?_ (reads_pure used)
      refine reads_peek.bind fun first => ?_
      split
      · refine (reads_readApplicationValue 12).bind fun raw => ?_
        dsimp only
        rcases appendObjectId used (decodeObjectId raw) with
          ⟨extended, _ | _⟩
        · exact reads_pure extended
        · exact inductionHypothesis extended
      · exact (reads_pure used).weaken (Nat.zero_le _) le_rfl

theorem reads_parseApplicationObjectIdentifierList :
    Reads needed parseApplicationObjectIdentifierList 0 :=
  reads_remaining_bind fun _ =>
    (reads_objectIdentifierListText _ _).bind fun _ =>
      (reads_require _).bind fun _ => reads_pure _

/-- Every round of a list of properties checks for its octets. -/
theorem reads_propertyIdentifierListText
    (rounds : Nat)
    (used : List UInt8) :
    Reads needed (propertyIdentifierListText rounds used) 0 := by
  induction rounds generalizing needed used with
  | zero => exact (reads_pure used).weaken (Nat.zero_le _) le_rfl
  | succ rounds inductionHypothesis =>
      refine reads_hasMore_bind ?_ (reads_pure used)
      refine reads_peek.bind fun first => ?_
      split
      · refine (reads_readApplicationValue 9).bind fun raw => ?_
        have extends_ (separated : List UInt8) :
            Reads 0
              (Reader.ofText
                  (appendUnsignedDecimal kMaxTextLength separated raw) >>=
                propertyIdentifierListText rounds) 0 :=
          (reads_ofText _).bind fun extended => inductionHypothesis extended
        dsimp only
        split
        · exact extends_ used
        · exact (reads_ofText _).bind extends_
      · exact (reads_pure used).weaken (Nat.zero_le _) le_rfl

theorem reads_parseApplicationPropertyIdentifierList :
    Reads needed parseApplicationPropertyIdentifierList 0 :=
  reads_remaining_bind fun _ =>
    (reads_propertyIdentifierListText _ _).bind fun _ =>
      (reads_require _).bind fun _ => reads_pure _

/-- A value of any tag needs the tag. -/
theorem reads_parseTaggedApplicationValue :
    Reads (needed + 1) parseTaggedApplicationValue 0 := by
  refine reads_peek.bind fun first => ?_
  dsimp only
  split
  · exact reads_parseApplicationNull
  split
  · exact reads_parseApplicationBoolean
  split
  · exact reads_parseApplicationUnsigned 2
  split
  · exact reads_parseApplicationSigned
  split
  · exact reads_parseApplicationReal
  split
  · exact reads_parseApplicationCharacterString
  split
  · exact reads_parseApplicationBitString
  split
  · exact reads_parseApplicationUnsigned 9
  split
  · exact reads_parseApplicationObjectIdentifier
  · exact reads_parseUnsupportedApplicationValue

/-- The value of a property needs nothing. -/
theorem reads_parseReadPropertyApplicationValue
    (expectedProperty : BacnetPropertyId)
    (arrayIndex : UInt32) :
    Reads needed
      (parseReadPropertyApplicationValue expectedProperty arrayIndex) 0 := by
  refine reads_hasMore_bind ?_ (reads_require_bind nofun)
  refine reads_require_bind fun _ => ?_
  refine (show Reads 1 peek 1 from reads_peek).bind fun first => ?_
  split
  · exact reads_parseApplicationUnsigned 2
  split
  · split
    · exact reads_parseApplicationObjectIdentifier
    · exact reads_parseApplicationObjectIdentifierList
  split
  · exact reads_parseApplicationPropertyIdentifierList
  split
  · exact (reads_pure _).weaken (Nat.zero_le _) le_rfl
  · exact reads_parseTaggedApplicationValue

end Values

end BacnetStack
