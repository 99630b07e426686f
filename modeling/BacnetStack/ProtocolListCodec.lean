import BacnetStack.ProtocolValueCodec

namespace BacnetStack

/-!
# Lists of identifiers as text

The client keeps a whole Object_List or Property_List as one text, its entries
separated by semicolons, in the text buffer of a value.  The loops that decode
such lists stop at the closing bracket of a read reply.
-/

open Reader

/-- A decimal number has at most ten digits. -/
theorem length_unsignedDecimal_le
    (value : UInt32) :
    (unsignedDecimal value).length ≤ 10 := by
  have below : value.toNat < 2 ^ 32 := value.toNat_lt
  rw [unsignedDecimal, List.length_map]
  exact
    (Nat.length_toDigits_le_iff (by decide) (by decide)).mpr (by omega)

/-- A decimal number is not empty. -/
theorem unsignedDecimal_ne_nil
    (value : UInt32) :
    unsignedDecimal value ≠ [] := by
  rw [unsignedDecimal, Ne, List.map_eq_nil_iff]
  exact Nat.toDigits_ne_nil

/-- An identifier is written in at least three characters. -/
theorem objectIdText_ne_nil
    (object : BacnetObjectId) :
    objectIdText object ≠ [] := by
  intro empty
  rw [objectIdText, List.append_eq_nil_iff, List.append_eq_nil_iff] at empty
  exact unsignedDecimal_ne_nil _ empty.1.1

/-- A short text is appended. -/
theorem appendText_of_fits
    {capacity : Nat}
    {used text : List UInt8}
    (fits : used.length + text.length < capacity) :
    appendText capacity used text = some (used ++ text) :=
  if_neg (Nat.not_le.mpr fits)

/-- Whatever was appended fits. -/
theorem length_of_appendText
    {capacity : Nat}
    {used text result : List UInt8}
    (appended : appendText capacity used text = some result) :
    result.length < capacity := by
  unfold appendText at appended
  split at appended
  · cases appended
  · rename_i fits
    obtain rfl := Option.some.inj appended
    rw [List.length_append]
    exact Nat.lt_of_not_le fits

/-- A text with one more entry, separated from the ones in front of it. -/
def withEntry (used entry : List UInt8) : List UInt8 :=
  if used.isEmpty then entry else used ++ (asciiBytes ";" ++ entry)

/-- A text with further entries. -/
def withEntries (used : List UInt8) : List (List UInt8) → List UInt8
  | [] => used
  | entry :: rest => withEntries (withEntry used entry) rest

/-- Entries only make a text longer. -/
theorem length_le_withEntries
    (used : List UInt8)
    (entries : List (List UInt8)) :
    used.length ≤ (withEntries used entries).length := by
  induction entries generalizing used with
  | nil =>
      exact Nat.le_refl _
  | cons entry rest inductionHypothesis =>
      refine Nat.le_trans ?_ (inductionHypothesis (withEntry used entry))
      unfold withEntry
      cases used with
      | nil => exact Nat.zero_le _
      | cons first others =>
          change _ ≤ (first :: others ++ _).length
          rw [List.length_append]
          exact Nat.le_add_right _ _

/-- Behind a first entry every further one has its separator. -/
theorem withEntries_append
    {used : List UInt8}
    (written : used ≠ [])
    (entries : List (List UInt8)) :
    withEntries used entries =
      used ++ (entries.map (asciiBytes ";" ++ ·)).flatten := by
  induction entries generalizing used with
  | nil =>
      exact (List.append_nil used).symm
  | cons entry rest inductionHypothesis =>
      have step : withEntry used entry = used ++ (asciiBytes ";" ++ entry) :=
        if_neg (by simpa using written)
      have longer : used ++ (asciiBytes ";" ++ entry) ≠ [] := fun empty =>
        written (List.append_eq_nil_iff.mp empty).1
      rw [withEntries, step, inductionHypothesis longer, List.map_cons,
        List.flatten_cons]
      simp only [List.append_assoc]

/-- The first three pieces of an identifier, then its instance. -/
theorem appendObjectId_pieces
    {used separated : List UInt8}
    {object : BacnetObjectId}
    (separator :
      (if used.isEmpty then
        some used
      else
        appendText kMaxTextLength used (asciiBytes ";")) = some separated)
    (fits :
      (separated ++ objectIdText object).length < kMaxTextLength) :
    appendObjectId used object = (separated ++ objectIdText object, true) := by
  simp only [objectIdText, List.length_append] at fits
  have typeFits :
      appendUnsignedDecimal kMaxTextLength separated
          object.type.toUInt32 =
        some (separated ++ unsignedDecimal object.type.toUInt32) :=
    appendText_of_fits (by omega)
  have commaFits :
      appendText kMaxTextLength
          (separated ++ unsignedDecimal object.type.toUInt32)
          (asciiBytes ",") =
        some (separated ++ unsignedDecimal object.type.toUInt32 ++
          asciiBytes ",") :=
    appendText_of_fits (by rw [List.length_append]; omega)
  have instanceFits :
      appendUnsignedDecimal kMaxTextLength
          (separated ++ unsignedDecimal object.type.toUInt32 ++
            asciiBytes ",") object.instance_ =
        some (separated ++ unsignedDecimal object.type.toUInt32 ++
          asciiBytes "," ++ unsignedDecimal object.instance_) :=
    appendText_of_fits (by
      rw [List.length_append, List.length_append]
      omega)
  simp only [appendObjectId, separator, typeFits, commaFits, instanceFits]
  rw [objectIdText]
  simp only [List.append_assoc]

/-- An identifier that fits is appended with its separator. -/
theorem appendObjectId_of_fits
    {used : List UInt8}
    {object : BacnetObjectId}
    (fits : (withEntry used (objectIdText object)).length < kMaxTextLength) :
    appendObjectId used object =
      (withEntry used (objectIdText object), true) := by
  unfold withEntry at fits ⊢
  cases used with
  | nil =>
      change ([] ++ objectIdText object).length < _ at fits
      exact appendObjectId_pieces rfl fits
  | cons first others =>
      change
        (first :: others ++
          (asciiBytes ";" ++ objectIdText object)).length < _ at fits
      have separator :
          appendText kMaxTextLength (first :: others) (asciiBytes ";") =
            some (first :: others ++ asciiBytes ";") :=
        appendText_of_fits (by
          rw [List.length_append, List.length_append] at fits
          omega)
      rw [← List.append_assoc] at fits
      change _ =
        (first :: others ++ (asciiBytes ";" ++ objectIdText object), true)
      rw [← List.append_assoc]
      exact appendObjectId_pieces separator fits

/-- What was appended of an identifier fits. -/
theorem length_of_appendObjectId
    {used : List UInt8}
    (fits : used.length < kMaxTextLength)
    (object : BacnetObjectId) :
    (appendObjectId used object).1.length < kMaxTextLength := by
  cases separator :
    (if used.isEmpty then
      some used
    else
      appendText kMaxTextLength used (asciiBytes ";")) with
  | none =>
      simp only [appendObjectId, separator]
      exact fits
  | some separated =>
      have separatedFits : separated.length < kMaxTextLength := by
        split at separator
        · obtain rfl := Option.some.inj separator
          exact fits
        · exact length_of_appendText separator
      simp only [appendObjectId, separator]
      split
      · exact separatedFits
      · rename_i typed typeFits
        split
        · exact length_of_appendText typeFits
        · rename_i withComma commaFits
          split
          · exact length_of_appendText commaFits
          · rename_i instanceFits
            exact length_of_appendText instanceFits

/-- One round of the list of identifiers. -/
theorem run_objectIdentifierListText_succ
    {first : UInt8}
    {others rest : List UInt8}
    {identifier : UInt32}
    (opened : first ≠ 0x3F)
    (read :
      (readApplicationValue 12).run (first :: others) =
        .ok (identifier, rest))
    (rounds : Nat)
    (used : List UInt8) :
    (objectIdentifierListText (rounds + 1) used).run (first :: others) =
      (match appendObjectId used (decodeObjectId identifier) with
        | (used, true) => objectIdentifierListText rounds used
        | (used, false) => return used).run rest := by
  have more : (first != 0x3F) = true := bne_iff_ne.mpr opened
  rw [objectIdentifierListText, run_bind_of_ok (run_hasMore _)]
  change (peek >>= _).run _ = _
  rw [run_bind_of_ok (run_peek_cons _ _), more]
  change (readApplicationValue 12 >>= _).run _ = _
  exact run_bind_of_ok read _

/-- One round of the list of properties, which has to fit. -/
theorem run_propertyIdentifierListText_succ
    {first : UInt8}
    {others rest : List UInt8}
    {property : UInt32}
    (opened : first ≠ 0x3F)
    (read :
      (readApplicationValue 9).run (first :: others) = .ok (property, rest))
    (rounds : Nat)
    {used : List UInt8}
    (fits :
      (withEntry used (unsignedDecimal property)).length < kMaxTextLength) :
    (propertyIdentifierListText (rounds + 1) used).run (first :: others) =
      (propertyIdentifierListText rounds
        (withEntry used (unsignedDecimal property))).run rest := by
  have more : (first != 0x3F) = true := bne_iff_ne.mpr opened
  rw [propertyIdentifierListText, run_bind_of_ok (run_hasMore _)]
  change (peek >>= _).run _ = _
  rw [run_bind_of_ok (run_peek_cons _ _), more]
  change (readApplicationValue 9 >>= _).run _ = _
  rw [run_bind_of_ok read]
  unfold withEntry at fits ⊢
  cases used with
  | nil =>
      have appended :
          appendUnsignedDecimal kMaxTextLength [] property =
            some (unsignedDecimal property) :=
        appendText_of_fits (by simpa using fits)
      simp only [List.isEmpty_nil, if_true, pure_bind, appended]
      rfl
  | cons head tail =>
      change
        (head :: tail ++ (asciiBytes ";" ++ unsignedDecimal property)).length
          < _ at fits
      rw [← List.append_assoc, List.length_append] at fits
      have separated :
          appendText kMaxTextLength (head :: tail) (asciiBytes ";") =
            some (head :: tail ++ asciiBytes ";") :=
        appendText_of_fits (by rw [List.length_append] at fits; omega)
      have appended :
          appendUnsignedDecimal kMaxTextLength
              (head :: tail ++ asciiBytes ";") property =
            some (head :: tail ++ asciiBytes ";" ++
              unsignedDecimal property) :=
        appendText_of_fits fits
      simp only [List.isEmpty_cons, Bool.false_eq_true, if_false, separated]
      change
        (Reader.ofText (appendUnsignedDecimal kMaxTextLength
          (head :: tail ++ asciiBytes ";") property) >>= _).run rest = _
      rw [appended, ← List.append_assoc]
      rfl

/-- A list of identifiers refuses the closing bracket of an entry. -/
theorem run_objectIdentifierListText_covBracket
    (rounds : Nat)
    (used rest : List UInt8) :
    (objectIdentifierListText (rounds + 1) used).run (0x2F :: rest) =
      .error .rejected :=
  rfl

/-- A list of properties refuses the closing bracket of an entry. -/
theorem run_propertyIdentifierListText_covBracket
    (rounds : Nat)
    (used rest : List UInt8) :
    (propertyIdentifierListText (rounds + 1) used).run (0x2F :: rest) =
      .error .rejected :=
  rfl

/-- The value of one entry of an Object_List. -/
def listedObjectValue (object : BacnetObjectId) : BacnetValue :=
  { type := .objectIdentifier, objectValue := object }

/-- The loop over identifiers keeps within the text buffer. -/
theorem length_of_objectIdentifierListText
    {rounds : Nat}
    {used text packet rest : List UInt8}
    (fits : used.length < kMaxTextLength)
    (read :
      (objectIdentifierListText rounds used).run packet = .ok (text, rest)) :
    text.length < kMaxTextLength := by
  induction rounds generalizing used packet with
  | zero =>
      cases read
      exact fits
  | succ rounds inductionHypothesis =>
      rw [objectIdentifierListText, run_bind_of_ok (run_hasMore _)] at read
      split at read
      · rw [run_bind_eq_ok_iff] at read
        obtain ⟨first, _, _, read⟩ := read
        dsimp only at read
        split at read
        · rw [run_bind_eq_ok_iff] at read
          obtain ⟨identifier, _, _, read⟩ := read
          have kept :=
            length_of_appendObjectId fits (decodeObjectId identifier)
          split at read
          · rename_i appended
            rw [appended] at kept
            exact inductionHypothesis kept read
          · rename_i appended
            rw [appended] at kept
            cases read
            exact kept
        · cases read
          exact fits
      · cases read
        exact fits

/-- A text that was taken over had fitted. -/
theorem eq_some_of_run_ofText
    {text : Option (List UInt8)}
    {found packet rest : List UInt8}
    (read : (Reader.ofText text).run packet = .ok (found, rest)) :
    text = some found := by
  cases text with
  | none => cases read
  | some _ =>
      cases read
      rfl

/-- The loop over properties keeps within the text buffer. -/
theorem length_of_propertyIdentifierListText
    {rounds : Nat}
    {used text packet rest : List UInt8}
    (fits : used.length < kMaxTextLength)
    (read :
      (propertyIdentifierListText rounds used).run packet =
        .ok (text, rest)) :
    text.length < kMaxTextLength := by
  induction rounds generalizing used packet with
  | zero =>
      cases read
      exact fits
  | succ rounds inductionHypothesis =>
      rw [propertyIdentifierListText, run_bind_of_ok (run_hasMore _)] at read
      split at read
      · rw [run_bind_eq_ok_iff] at read
        obtain ⟨first, _, _, read⟩ := read
        split at read
        · rw [run_bind_eq_ok_iff] at read
          obtain ⟨property, _, _, read⟩ := read
          have extends_ {separated others : List UInt8}
              (read :
                (do
                  let extended ← Reader.ofText
                    (appendUnsignedDecimal
                      kMaxTextLength separated property)
                  propertyIdentifierListText rounds extended :
                  Reader (List UInt8)).run others = .ok (text, rest)) :
              text.length < kMaxTextLength := by
            rw [run_bind_eq_ok_iff] at read
            obtain ⟨extended, _, appended, read⟩ := read
            exact inductionHypothesis
              (length_of_appendText (eq_some_of_run_ofText appended)) read
          dsimp only at read
          split at read
          · rw [pure_bind] at read
            exact extends_ read
          · rw [run_bind_eq_ok_iff] at read
            obtain ⟨_, _, _, read⟩ := read
            exact extends_ read
        · cases read
          exact fits
      · cases read
        exact fits

/-- The octets of an identifier, read as an entry of a list. -/
theorem run_readApplicationValue_identifier
    {object : BacnetObjectId}
    {octets : List UInt8}
    (encoded : applicationOctets (listedObjectValue object) = some octets)
    (rest : List UInt8) :
    ∃ first tail,
      octets ++ rest = first :: tail ∧ first ≠ 0x3F ∧
        (readApplicationValue 12).run (first :: tail) =
          .ok (encodeObjectId object, rest) ∧
        decodeObjectId (encodeObjectId object) = object := by
  have enough : (encodeObjectId object).toNat < 256 ^ 4 :=
    (encodeObjectId object).toNat_lt
  unfold applicationOctets encodeApplicationValue listedObjectValue
    at encoded
  rw [if_neg (by decide)] at encoded
  dsimp only at encoded
  split at encoded
  · cases encoded
  · rename_i addressable
    have objectType : object.type ≤ 1023 :=
      UInt16.not_lt.mp fun large => addressable (Or.inl large)
    have objectInstance : object.instance_ ≤ kObjectInstanceMask :=
      UInt32.not_lt.mp fun large => addressable (Or.inr large)
    rw [taggedNumber_octets le_rfl] at encoded
    obtain rfl := Option.some.inj encoded
    refine ⟨_, _, rfl, by decide, ?_,
      (decodeObjectId_encodeObjectId_eq_self_iff objectInstance).mpr
        objectType⟩
    refine (run_readApplicationValue (by decide) (by decide) le_rfl
      (encodeObjectId object) rest).trans ?_
    rw [Nat.mod_eq_of_lt enough, UInt32.ofNat_toNat]

/-- The octets of a property identifier, read as an entry of a list. -/
theorem run_readApplicationValue_enumerated
    {raw : UInt32}
    {octets : List UInt8}
    (encoded : applicationOctets (enumeratedValue raw) = some octets)
    (rest : List UInt8) :
    ∃ first tail,
      octets ++ rest = first :: tail ∧ first ≠ 0x3F ∧
        (readApplicationValue 9).run (first :: tail) = .ok (raw, rest) := by
  obtain ⟨positive, enough⟩ := unsignedLength_enough raw
  have short := unsignedLength_le raw
  have octetsAre :
      applicationOctets (enumeratedValue raw) =
        some ((((9 : UInt8) <<< 4) ||| UInt8.ofNat (unsignedLength raw)) ::
          bigEndianOctets raw (unsignedLength raw)) :=
    taggedNumber_octets short
  rw [octetsAre] at encoded
  obtain rfl := Option.some.inj encoded
  refine ⟨_, _, rfl, ?_, ?_⟩
  · generalize unsignedLength raw = length at short
    interval_cases length <;> decide
  · refine (run_readApplicationValue (by decide) positive short
      raw rest).trans ?_
    rw [Nat.mod_eq_of_lt enough, UInt32.ofNat_toNat]

/-- The octets of the entries of a list, in order. -/
def EncodesEach {α : Type}
    (valueOf : α → BacnetValue)
    (entries : List α)
    (values : List (List UInt8)) : Prop :=
  List.Forall₂
    (fun entry octets => applicationOctets (valueOf entry) = some octets)
    entries values

/-- A list of identifiers whose text fits is read up to its bracket. -/
theorem run_objectIdentifierListText
    {objects : List BacnetObjectId}
    {values : List (List UInt8)}
    (encodes : EncodesEach listedObjectValue objects values)
    {rounds : Nat}
    (enough : objects.length ≤ rounds)
    {used : List UInt8}
    (fits :
      (withEntries used (objects.map objectIdText)).length < kMaxTextLength)
    (rest : List UInt8) :
    (objectIdentifierListText rounds used).run
        (values.flatten ++ 0x3F :: rest) =
      .ok (withEntries used (objects.map objectIdText), 0x3F :: rest) := by
  induction encodes generalizing rounds used with
  | nil =>
      cases rounds <;> rfl
  | @cons object octets objects values encoded others
      inductionHypothesis =>
      obtain ⟨rounds, rfl⟩ : ∃ others, rounds = others + 1 :=
        ⟨rounds - 1, by simp only [List.length_cons] at enough; omega⟩
      obtain ⟨first, tail, shape, opened, read, back⟩ :=
        run_readApplicationValue_identifier encoded
          (values.flatten ++ 0x3F :: rest)
      rw [List.map_cons, withEntries] at fits ⊢
      have entryFits :=
        lt_of_le_of_lt (length_le_withEntries _ _) fits
      rw [List.flatten_cons, List.append_assoc, shape,
        run_objectIdentifierListText_succ opened read, back,
        appendObjectId_of_fits entryFits]
      exact inductionHypothesis (Nat.le_of_succ_le_succ enough) fits

/-- A list of properties whose text fits is read up to its bracket. -/
theorem run_propertyIdentifierListText
    {properties : List UInt32}
    {values : List (List UInt8)}
    (encodes : EncodesEach enumeratedValue properties values)
    {rounds : Nat}
    (enough : properties.length ≤ rounds)
    {used : List UInt8}
    (fits :
      (withEntries used (properties.map unsignedDecimal)).length <
        kMaxTextLength)
    (rest : List UInt8) :
    (propertyIdentifierListText rounds used).run
        (values.flatten ++ 0x3F :: rest) =
      .ok (withEntries used (properties.map unsignedDecimal),
        0x3F :: rest) := by
  induction encodes generalizing rounds used with
  | nil =>
      cases rounds <;> rfl
  | @cons property octets properties values encoded others
      inductionHypothesis =>
      obtain ⟨rounds, rfl⟩ : ∃ others, rounds = others + 1 :=
        ⟨rounds - 1, by simp only [List.length_cons] at enough; omega⟩
      obtain ⟨first, tail, shape, opened, read⟩ :=
        run_readApplicationValue_enumerated encoded
          (values.flatten ++ 0x3F :: rest)
      rw [List.map_cons, withEntries] at fits ⊢
      have entryFits :=
        lt_of_le_of_lt (length_le_withEntries _ _) fits
      rw [List.flatten_cons, List.append_assoc, shape,
        run_propertyIdentifierListText_succ opened read rounds entryFits]
      exact inductionHypothesis (Nat.le_of_succ_le_succ enough) fits

/-- The entries of a list with semicolons between them. -/
def listText (entries : List (List UInt8)) : List UInt8 :=
  (asciiBytes ";").intercalate entries

/-- Behind its first entry every entry of a list has its separator. -/
theorem listText_cons
    (first : List UInt8)
    (entries : List (List UInt8)) :
    listText (first :: entries) =
      first ++ (entries.map (asciiBytes ";" ++ ·)).flatten := by
  induction entries generalizing first with
  | nil =>
      rw [listText, List.intercalate_singleton]
      exact (List.append_nil first).symm
  | cons second others inductionHypothesis =>
      have tail := inductionHypothesis second
      rw [listText] at tail ⊢
      rw [List.intercalate_cons_cons, tail, List.map_cons,
        List.flatten_cons]
      simp only [List.append_assoc]

/-- The loops write the text of the list. -/
theorem withEntries_nil
    {entries : List (List UInt8)}
    (written : ∀ entry ∈ entries, entry ≠ []) :
    withEntries [] entries = listText entries := by
  cases entries with
  | nil => rfl
  | cons first others =>
      rw [listText_cons, withEntries]
      exact withEntries_append (written first List.mem_cons_self) others

/-- A separator splits a text into the parts it separates. -/
theorem eq_of_intercalate_eq
    {separator : UInt8}
    {entries others : List (List UInt8)}
    (entriesOmit : ∀ entry ∈ entries, separator ∉ entry)
    (othersOmit : ∀ entry ∈ others, separator ∉ entry)
    (someEntry : entries ≠ [])
    (someOther : others ≠ [])
    (same :
      [separator].intercalate entries = [separator].intercalate others) :
    entries = others := by
  rw [← List.splitOn_intercalate separator entriesOmit someEntry, same,
    List.splitOn_intercalate separator othersOmit someOther]

/-- A digit is one octet. -/
theorem toNat_toUInt8_of_digit
    {value : Nat}
    {digit : Char}
    (member : digit ∈ Nat.toDigits 10 value) :
    digit.toUInt8.toNat = digit.toNat ∧
      48 ≤ digit.toNat ∧ digit.toNat ≤ 57 := by
  have isDigit :=
    Nat.isDigit_of_mem_toDigits (by decide) (by decide) member
  obtain ⟨low, high⟩ := Char.isDigit_iff_toNat.mp isDigit
  have above : 48 ≤ digit.toNat := low
  have below : digit.toNat ≤ 57 := high
  refine ⟨?_, above, below⟩
  rw [Char.toUInt8, UInt32.toNat_toUInt8]
  exact Nat.mod_eq_of_lt (lt_of_le_of_lt below (by decide))

/-- The octets of a decimal number are those of digits. -/
theorem digit_of_mem_unsignedDecimal
    {value : UInt32}
    {octet : UInt8}
    (member : octet ∈ unsignedDecimal value) :
    48 ≤ octet.toNat ∧ octet.toNat ≤ 57 := by
  obtain ⟨digit, digitMember, rfl⟩ := List.mem_map.mp member
  obtain ⟨same, low, high⟩ := toNat_toUInt8_of_digit digitMember
  rw [same]
  exact ⟨low, high⟩

/-- A separator is no part of a decimal number. -/
theorem separator_not_mem_unsignedDecimal
    {separator : UInt8}
    (noDigit : separator.toNat < 48 ∨ 57 < separator.toNat)
    (value : UInt32) :
    separator ∉ unsignedDecimal value := by
  intro member
  have digit := digit_of_mem_unsignedDecimal member
  omega

/-- A number is what its digits say. -/
theorem unsignedDecimal_injective :
    Function.Injective unsignedDecimal := by
  have digitsBack (value : UInt32) :
      (unsignedDecimal value).map (fun octet => Char.ofNat octet.toNat) =
        Nat.toDigits 10 value.toNat := by
    rw [unsignedDecimal, List.map_map]
    refine (List.map_congr_left fun digit member => ?_).trans (List.map_id _)
    change Char.ofNat digit.toUInt8.toNat = digit
    rw [(toNat_toUInt8_of_digit member).1, Char.ofNat_toNat]
  intro first second same
  have digits := digitsBack first
  rw [same, digitsBack second] at digits
  apply UInt32.toNat_inj.mp
  rw [← @Nat.ofDigitChars_toDigits 10 first.toNat (by decide) (by decide),
    ← digits, Nat.ofDigitChars_toDigits (by decide) (by decide)]

/-- The two numbers of an identifier are the parts around its comma. -/
theorem objectIdText_eq
    (object : BacnetObjectId) :
    objectIdText object =
      [0x2C].intercalate
        [unsignedDecimal object.type.toUInt32,
          unsignedDecimal object.instance_] := by
  rw [List.intercalate_cons_cons, List.intercalate_singleton]
  rfl

/-- An identifier is what its text says. -/
theorem objectIdText_injective : Function.Injective objectIdText := by
  intro first second same
  have omits (value : UInt32) : (0x2C : UInt8) ∉ unsignedDecimal value :=
    separator_not_mem_unsignedDecimal (.inl (by decide)) value
  rw [objectIdText_eq, objectIdText_eq] at same
  have parts :=
    eq_of_intercalate_eq (by simp [omits]) (by simp [omits])
      (List.cons_ne_nil _ _) (List.cons_ne_nil _ _) same
  simp only [List.cons.injEq, and_true] at parts
  have types := UInt16.toUInt32_inj.mp (unsignedDecimal_injective parts.1)
  have instances := unsignedDecimal_injective parts.2
  cases first
  cases second
  exact congr (congrArg BacnetObjectId.mk types) instances

/-- A separator is no part of an identifier. -/
theorem semicolon_not_mem_objectIdText
    (object : BacnetObjectId) :
    (0x3B : UInt8) ∉ objectIdText object := by
  have omits (value : UInt32) : (0x3B : UInt8) ∉ unsignedDecimal value :=
    separator_not_mem_unsignedDecimal (.inr (by decide)) value
  have comma : (0x3B : UInt8) ∉ asciiBytes "," := by decide
  rw [objectIdText]
  simp only [List.mem_append, omits, comma, or_self, not_false_eq_true]

/-- A list is what its text says. -/
theorem listText_injective
    {α : Type}
    {textOf : α → List UInt8}
    (injective : Function.Injective textOf)
    (omits : ∀ entry, (0x3B : UInt8) ∉ textOf entry)
    {entries others : List α}
    (someEntry : entries ≠ [])
    (someOther : others ≠ [])
    (same :
      listText (entries.map textOf) = listText (others.map textOf)) :
    entries = others := by
  have texts :=
    @eq_of_intercalate_eq 0x3B _ _
      (by simp [omits]) (by simp [omits])
      (by simpa using someEntry) (by simpa using someOther) same
  exact (List.map_inj_right fun _ _ equal => injective equal).mp texts

end BacnetStack
