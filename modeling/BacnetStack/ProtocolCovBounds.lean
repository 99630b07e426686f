import BacnetStack.ProtocolBuilderBounds

namespace BacnetStack

/-!
# How far a notification is written

The entries of a notification are guarded one by one.  An index takes five of
the six octets that are asked for in front of it, the opening bracket takes one
more, and the room for the value is computed by subtracting two octets for the
brackets: where fewer than two are left, the difference wraps around.
-/

open PacketWriter

/-- The octets of an entry in front of its value. -/
def covEntryOpening (entry : BacnetCovPropertyValue) : List UInt8 :=
  contextUnsigned 0 entry.property.raw ++
    optionalIndex 1 entry.arrayIndex ++ [0x2E]

/-- The octets of an entry in front of its value and behind it. -/
theorem length_covEntryOctets
    (entry : BacnetCovPropertyValue)
    (octets : List UInt8) :
    (covEntryOpening entry).length =
        referenceSize entry.property entry.arrayIndex + 1 ∧
      (covEntryOctets entry octets).length =
        referenceSize entry.property entry.arrayIndex + octets.length + 2 := by
  rw [covEntryOpening, covEntryOctets, referenceSize,
    ← length_optionalIndex 1]
  constructor
  · simp only [List.length_append, length_contextUnsigned,
      List.length_singleton]
  · simp only [List.length_append, length_contextUnsigned,
      List.length_singleton]
    omega

/-- The size checks in front of an entry and of its index pass. -/
def Admits
    (bufferSize start : Nat)
    (entry : BacnetCovPropertyValue) : Prop :=
  start + 8 ≤ bufferSize ∧
    (entry.arrayIndex ≠ kBacnetNoArrayIndex →
      start + contextUnsignedSize entry.property.raw + 6 ≤ bufferSize)

/--
An entry with an index of five octets and a value that can be encoded is
reached with only six or seven octets left behind its property.
-/
structure OverrunsAt
    (bufferSize start : Nat)
    (entry : BacnetCovPropertyValue) : Prop where
  indexed : entry.arrayIndex ≠ kBacnetNoArrayIndex
  wide : 0xFFFF < entry.arrayIndex
  encodable : ∃ octets, applicationOctets entry.value = some octets
  reached :
    start + contextUnsignedSize entry.property.raw + 6 ≤ bufferSize
  short :
    bufferSize < start + contextUnsignedSize entry.property.raw + 8

section Entry

variable {bufferSize start : Nat} {entry : BacnetCovPropertyValue}

/-- The room for a value wraps around only behind a five-octet index. -/
theorem overrunsAt_iff :
    OverrunsAt bufferSize start entry ↔
      Admits bufferSize start entry ∧
        bufferSize <
          start + referenceSize entry.property entry.arrayIndex + 3 ∧
        ∃ octets, applicationOctets entry.value = some octets := by
  have name := contextUnsignedSize_le entry.property.raw
  have index :
      0xFFFF < entry.arrayIndex ↔
        3 < contextUnsignedSize entry.arrayIndex := by
    unfold contextUnsignedSize
    split
    · rename_i octet
      refine iff_of_false (UInt32.not_lt.mpr ?_) (by decide)
      exact UInt32.le_trans octet (by decide)
    · split
      · rename_i two
        exact iff_of_false (UInt32.not_lt.mpr two) (by decide)
      · rename_i wide
        exact iff_of_true (UInt32.not_le.mp wide) (by decide)
  have few := contextUnsignedSize_le entry.arrayIndex
  have five :
      3 < contextUnsignedSize entry.arrayIndex →
        contextUnsignedSize entry.arrayIndex = 5 := by
    unfold contextUnsignedSize
    split
    · intro impossible
      omega
    · split
      · intro impossible
        omega
      · exact fun _ => rfl
  unfold referenceSize Admits
  constructor
  · rintro ⟨indexed, wide, encodable, reached, short⟩
    rw [if_neg indexed]
    have size := five (index.mp wide)
    exact ⟨⟨by omega, fun _ => reached⟩, by omega, encodable⟩
  · rintro ⟨⟨opens, reached⟩, short, encodable⟩
    by_cases whole : entry.arrayIndex = kBacnetNoArrayIndex
    · rw [if_pos whole] at short
      omega
    · rw [if_neg whole] at short
      have behind := reached whole
      have wide : 3 < contextUnsignedSize entry.arrayIndex := by omega
      have size := five wide
      exact ⟨whole, index.mpr wide, encodable, behind, by omega⟩

/-- An entry in front of another one is admitted. -/
theorem admits_of_room
    {octets : List UInt8}
    (room :
      start + (covEntryOctets entry octets).length + 8 ≤ bufferSize) :
    Admits bufferSize start entry := by
  rw [(length_covEntryOctets entry octets).2, referenceSize] at room
  refine ⟨by omega, fun indexed => ?_⟩
  rw [if_neg indexed] at room
  have index := contextUnsignedSize_le entry.arrayIndex
  omega

/-- The value of an entry and its closing bracket. -/
def closeCovPropertyValue
    (capacity : Nat)
    (value : BacnetValue) : PacketWriter Unit := do
  putApplicationValue capacity value
  put [0x2F]

variable {written : List UInt8}

/-- An entry that is not admitted ends the writer inside the buffer. -/
theorem exec_putCovPropertyValue_refused
    (size : bufferSize < 2 ^ 32)
    (room : written.length ≤ bufferSize)
    (refused : ¬Admits bufferSize written.length entry) :
    ∃ octets,
      exec (putCovPropertyValue bufferSize entry) written =
          (none, octets) ∧
        octets.length ≤ bufferSize := by
  have name := contextUnsignedSize_le entry.property.raw
  rw [putCovPropertyValue, exec_offset_bind, sizeSub_of_le room size]
  by_cases opens : 8 ≤ bufferSize - written.length
  · have named :
        (written ++ contextUnsigned 0 entry.property.raw).length =
          written.length + contextUnsignedSize entry.property.raw := by
      rw [List.length_append, length_contextUnsigned]
    have indexed :
        entry.arrayIndex ≠ kBacnetNoArrayIndex ∧
          ¬written.length + contextUnsignedSize entry.property.raw + 6 ≤
            bufferSize := by
      rw [← Classical.not_imp]
      exact fun admitted => refused ⟨by omega, admitted⟩
    rw [exec_require_bind_of_true (decide_eq_true opens), exec_put_bind]
    simp only [if_pos indexed.1]
    rw [exec_offset_bind, named, sizeSub_of_le (by omega) size,
      exec_require_bind_of_false (decide_eq_false (by omega))]
    exact ⟨_, rfl, by omega⟩
  · rw [exec_require_bind_of_false (decide_eq_false opens)]
    exact ⟨_, rfl, room⟩

/-- An entry that is admitted is written up to its value. -/
theorem exec_putCovPropertyValue_admitted
    (size : bufferSize < 2 ^ 32)
    (admitted : Admits bufferSize written.length entry) :
    exec (putCovPropertyValue bufferSize entry) written =
      exec
        (closeCovPropertyValue
          (sizeSub
            (sizeSub bufferSize
              (written ++ covEntryOpening entry).length) 2)
          entry.value) (written ++ covEntryOpening entry) := by
  obtain ⟨opens, reached⟩ := admitted
  have named :
      (written ++ contextUnsigned 0 entry.property.raw).length =
        written.length + contextUnsignedSize entry.property.raw := by
    rw [List.length_append, length_contextUnsigned]
  have name := contextUnsignedSize_le entry.property.raw
  have shape :
      written ++ covEntryOpening entry =
        written ++ contextUnsigned 0 entry.property.raw ++
          optionalIndex 1 entry.arrayIndex ++ [0x2E] := by
    simp only [covEntryOpening, List.append_assoc]
  rw [putCovPropertyValue, exec_offset_bind,
    sizeSub_of_le (by omega) size,
    exec_require_bind_of_true (decide_eq_true (by omega)), exec_put_bind,
    shape, optionalIndex]
  by_cases indexed : entry.arrayIndex ≠ kBacnetNoArrayIndex
  · have behind := reached indexed
    simp only [if_pos indexed]
    rw [exec_offset_bind, named, sizeSub_of_le (by omega) size,
      exec_require_bind_of_true (decide_eq_true (by omega)),
      exec_put_bind, exec_put_bind, exec_offset_bind]
    rfl
  · simp only [if_neg indexed]
    rw [exec_put_bind, exec_offset_bind, List.append_nil]
    rfl

/-- The three ways in which the writer of an entry ends. -/
theorem exec_putCovPropertyValue_cases
    (size : bufferSize < 2 ^ 32)
    (room : written.length ≤ bufferSize) :
    (OverrunsAt bufferSize written.length entry ∧
      ∃ octets,
        exec (putCovPropertyValue bufferSize entry) written =
            (some (), octets) ∧
          bufferSize < octets.length) ∨
    (¬OverrunsAt bufferSize written.length entry ∧
      (∀ octets,
        applicationOctets entry.value = some octets →
          Admits bufferSize written.length entry →
          ¬written.length + (covEntryOctets entry octets).length + 1 ≤
            bufferSize) ∧
      ∃ octets,
        exec (putCovPropertyValue bufferSize entry) written =
            (none, octets) ∧
          octets.length ≤ bufferSize) ∨
    (¬OverrunsAt bufferSize written.length entry ∧
      Admits bufferSize written.length entry ∧
      ∃ octets,
        applicationOctets entry.value = some octets ∧
          written.length + (covEntryOctets entry octets).length + 1 ≤
            bufferSize ∧
          exec (putCovPropertyValue bufferSize entry) written =
            (some (), written ++ covEntryOctets entry octets)) := by
  by_cases admitted : Admits bufferSize written.length entry
  · have opened :
        (written ++ covEntryOpening entry).length =
          written.length +
            referenceSize entry.property entry.arrayIndex + 1 := by
      rw [List.length_append, (length_covEntryOctets entry []).1]
      rfl
    have within :
        written.length +
            referenceSize entry.property entry.arrayIndex + 1 ≤
          bufferSize := by
      have name := contextUnsignedSize_le entry.property.raw
      have index := contextUnsignedSize_le entry.arrayIndex
      obtain ⟨opens, reached⟩ := admitted
      unfold referenceSize
      split
      · omega
      · rename_i indexed
        have behind := reached indexed
        omega
    have closes (octets : List UInt8) :
        written ++ covEntryOpening entry ++ octets ++ [0x2F] =
          written ++ covEntryOctets entry octets := by
      simp only [covEntryOpening, covEntryOctets, List.append_assoc]
    rw [exec_putCovPropertyValue_admitted size admitted, opened,
      sizeSub_of_le within size, closeCovPropertyValue, overrunsAt_iff]
    by_cases wraps :
      bufferSize <
        written.length +
          referenceSize entry.property entry.arrayIndex + 3
    · obtain ⟨unencoded, refused⟩ | ⟨octets, encoded, fits, wrote⟩ :=
        exec_putApplicationValue_cases
          (sizeSub (bufferSize - (written.length +
            referenceSize entry.property entry.arrayIndex + 1)) 2)
          entry.value (written ++ covEntryOpening entry)
      · have missing (octets : List UInt8) :
            applicationOctets entry.value ≠ some octets := by
          intro encoded
          have short := length_applicationOctets_le encoded
          have long := unencoded octets encoded
          change octets.length ≤ 512 at short
          unfold sizeSub at long
          omega
        rw [exec_bind_of_none refused]
        refine Or.inr (Or.inl ⟨?_, ?_, _, rfl, opened.trans_le within⟩)
        · rintro ⟨_, _, octets, encoded⟩
          exact missing octets encoded
        · exact fun octets encoded _ => absurd encoded (missing octets)
      · have nonempty :=
          List.length_pos_iff.mpr (applicationOctets_ne_nil encoded)
        rw [exec_bind_of_some wrote, exec_put, closes]
        refine Or.inl ⟨⟨admitted, wraps, octets, encoded⟩, _, rfl, ?_⟩
        rw [List.length_append, (length_covEntryOctets entry octets).2]
        omega
    · have capacity :
          sizeSub (bufferSize - (written.length +
            referenceSize entry.property entry.arrayIndex + 1)) 2 =
            bufferSize - (written.length +
              referenceSize entry.property entry.arrayIndex + 3) := by
        rw [sizeSub_of_le (by omega) (by omega)]
        omega
      rw [capacity]
      obtain ⟨unencoded, refused⟩ | ⟨octets, encoded, fits, wrote⟩ :=
        exec_putApplicationValue_cases
          (bufferSize - (written.length +
            referenceSize entry.property entry.arrayIndex + 3))
          entry.value (written ++ covEntryOpening entry)
      · rw [exec_bind_of_none refused]
        refine Or.inr (Or.inl
          ⟨fun overruns => wraps overruns.2.1, ?_, _, rfl,
            opened.trans_le within⟩)
        intro octets encoded _
        have long := unencoded octets encoded
        rw [(length_covEntryOctets entry octets).2]
        omega
      · rw [exec_bind_of_some wrote, exec_put, closes]
        refine Or.inr (Or.inr
          ⟨fun overruns => wraps overruns.2.1, admitted, octets, encoded,
            ?_, rfl⟩)
        rw [(length_covEntryOctets entry octets).2]
        omega
  · have notOver : ¬OverrunsAt bufferSize written.length entry :=
      fun overruns => admitted (overrunsAt_iff.mp overruns).1
    exact Or.inr (Or.inl ⟨notOver,
      fun _ _ isAdmitted => absurd isAdmitted admitted,
      exec_putCovPropertyValue_refused size room admitted⟩)

end Entry

/-! The list of entries and the packet around it. -/

/-- Behind entries that are written, an entry is reached that overruns. -/
def Overruns
    (bufferSize start : Nat)
    (entries : List BacnetCovPropertyValue) : Prop :=
  ∃ before entry after octets,
    entries = before ++ entry :: after ∧
      EncodesEntries before octets ∧
      OverrunsAt bufferSize (start + octets.length) entry

/--
All entries are written and fit into the buffer, but the notification is
longer than its header can announce.
-/
def Unannounced
    (bufferSize start : Nat)
    (entries : List BacnetCovPropertyValue) : Prop :=
  ∃ before entry octets value,
    entries = before ++ [entry] ∧
      EncodesEntries before octets ∧
      applicationOctets entry.value = some value ∧
      Admits bufferSize (start + octets.length) entry ∧
      0xFFFF <
        start + octets.length + (covEntryOctets entry value).length + 1 ∧
      start + octets.length + (covEntryOctets entry value).length + 1 ≤
        bufferSize

section Entries

variable {bufferSize start : Nat}
  {entry : BacnetCovPropertyValue} {rest : List BacnetCovPropertyValue}

/-- An entry overruns, or one behind it. -/
theorem overruns_cons_iff :
    Overruns bufferSize start (entry :: rest) ↔
      OverrunsAt bufferSize start entry ∨
        ∃ value,
          applicationOctets entry.value = some value ∧
            Overruns bufferSize
              (start + (covEntryOctets entry value).length) rest := by
  constructor
  · rintro ⟨before, other, after, octets, split, encodes, overruns⟩
    cases encodes with
    | nil =>
        obtain ⟨rfl, rfl⟩ := List.cons.inj split
        exact Or.inl overruns
    | @cons first others value following encoded encodes =>
        obtain ⟨rfl, rfl⟩ := List.cons.inj split
        rw [List.length_append, ← Nat.add_assoc] at overruns
        exact Or.inr
          ⟨value, encoded, others, other, after, following, rfl, encodes,
            overruns⟩
  · rintro (overruns | ⟨value, encoded, before, other, after, octets, rfl,
      encodes, overruns⟩)
    · exact ⟨[], entry, rest, [], rfl, .nil, overruns⟩
    · refine ⟨entry :: before, other, after, _, rfl,
        .cons encoded encodes, ?_⟩
      rw [List.length_append, ← Nat.add_assoc]
      exact overruns

/-- Behind the last entry nothing overruns. -/
theorem not_overruns_nil : ¬Overruns bufferSize start [] := by
  rintro ⟨before, entry, after, _, split, _⟩
  exact absurd split.symm
    (List.append_ne_nil_of_right_ne_nil _ (List.cons_ne_nil _ _))

/-- A single entry makes the notification too long. -/
theorem unannounced_singleton_iff :
    Unannounced bufferSize start [entry] ↔
      ∃ value,
        applicationOctets entry.value = some value ∧
          Admits bufferSize start entry ∧
          0xFFFF < start + (covEntryOctets entry value).length + 1 ∧
          start + (covEntryOctets entry value).length + 1 ≤ bufferSize := by
  constructor
  · rintro ⟨before, other, octets, value, split, encodes, encoded, long⟩
    cases encodes with
    | nil =>
        obtain ⟨rfl, _⟩ := List.cons.inj split
        exact ⟨value, encoded, long⟩
    | cons _ _ =>
        obtain ⟨_, impossible⟩ := List.cons.inj split
        exact absurd impossible.symm (List.append_ne_nil_of_right_ne_nil _
          (List.cons_ne_nil _ _))
  · rintro ⟨value, encoded, long⟩
    exact ⟨[], entry, [], value, rfl, .nil, encoded, long⟩

/-- The entries behind a written one make the notification too long. -/
theorem unannounced_cons_iff
    (more : rest ≠ []) :
    Unannounced bufferSize start (entry :: rest) ↔
      ∃ value,
        applicationOctets entry.value = some value ∧
          Unannounced bufferSize
            (start + (covEntryOctets entry value).length) rest := by
  constructor
  · rintro ⟨before, other, octets, last, split, encodes, encoded, long⟩
    cases encodes with
    | nil =>
        obtain ⟨_, rfl⟩ := List.cons.inj split
        exact absurd rfl more
    | @cons first others value following firstEncoded encodes =>
        obtain ⟨rfl, rfl⟩ := List.cons.inj split
        simp only [List.length_append, ← Nat.add_assoc] at long
        exact ⟨value, firstEncoded, others, other, following, last, rfl,
          encodes, encoded, long⟩
  · rintro ⟨value, firstEncoded, before, other, octets, last, rfl, encodes,
      encoded, long⟩
    refine ⟨entry :: before, other, _, last, rfl,
      .cons firstEncoded encodes, encoded, ?_⟩
    simp only [List.length_append, ← Nat.add_assoc]
    exact long

/-- What is reached behind an entry has room for one more. -/
theorem room_of_overruns
    {entries : List BacnetCovPropertyValue}
    (overruns : Overruns bufferSize start entries) :
    start + 8 ≤ bufferSize := by
  obtain ⟨_, entry, _, octets, _, _, overrunsAt⟩ := overruns
  have name := contextUnsignedSize_le entry.property.raw
  have reached := overrunsAt.reached
  omega

/-- The last entry has room where it is admitted. -/
theorem room_of_unannounced
    {entries : List BacnetCovPropertyValue}
    (long : Unannounced bufferSize start entries) :
    start + 8 ≤ bufferSize := by
  obtain ⟨_, _, octets, _, _, _, _, ⟨opens, _⟩, _⟩ := long
  omega

/-- The end of a notification. -/
def closeCovNotification (bufferSize : Nat) : PacketWriter Unit := do
  require (decide ((← offset) + 1 ≤ bufferSize))
  put [0x4F]
  storeLength

/-- More octets are written than there are in the buffer. -/
def Behind
    (bufferSize : Nat)
    (written : List UInt8) : Prop :=
  bufferSize < written.length

/-- Writing more does not lead back into the buffer. -/
theorem keeps_behind_put
    (octets : List UInt8) :
    Keeps (Behind bufferSize) (put octets) := by
  intro written behind
  rw [exec_put, Behind, List.length_append]
  exact behind.trans_le (Nat.le_add_right _ _)

/-- A size check writes nothing. -/
theorem keeps_behind_require
    (holds : Bool) :
    Keeps (Behind bufferSize) (require holds) := by
  intro written behind
  rw [exec_require]
  exact behind

/-- A value is added to what was written, if anything is. -/
theorem keeps_behind_putApplicationValue
    (capacity : Nat)
    (value : BacnetValue) :
    Keeps (Behind bufferSize) (putApplicationValue capacity value) := by
  intro written behind
  obtain ⟨_, refused⟩ | ⟨octets, _, _, wrote⟩ :=
    exec_putApplicationValue_cases capacity value written
  · rw [refused]
    exact behind
  · rw [wrote, Behind, List.length_append]
    exact behind.trans_le (Nat.le_add_right _ _)

/-- The end of a writer that left the buffer is behind it as well. -/
theorem keeps_behind_closeCovNotification :
    Keeps (Behind bufferSize) (closeCovNotification bufferSize) := by
  intro written behind
  rw [closeCovNotification, exec_offset_bind]
  refine (keeps_behind_require _).bind (fun _ => ?_) written behind
  refine (keeps_behind_put _).bind fun _ => ?_
  intro octets behind
  rw [exec_storeLength, Behind, List.length_set, List.length_set]
  exact behind

/-- An entry is written behind the buffer once the writer left it. -/
theorem keeps_behind_putCovPropertyValue
    (entry : BacnetCovPropertyValue) :
    Keeps (Behind bufferSize) (putCovPropertyValue bufferSize entry) := by
  have value :
      Keeps (Behind bufferSize)
        (do
          put [0x2E]
          putApplicationValue
            (sizeSub (sizeSub bufferSize (← offset)) 2) entry.value
          put [0x2F]) := by
    refine (keeps_behind_put _).bind fun _ => ?_
    intro written behind
    rw [exec_offset_bind]
    exact (keeps_behind_putApplicationValue _ _).bind
      (fun _ => keeps_behind_put _) written behind
  intro written behind
  rw [putCovPropertyValue, exec_offset_bind]
  refine (keeps_behind_require _).bind (fun _ => ?_) written behind
  refine (keeps_behind_put _).bind fun _ => ?_
  by_cases indexed : entry.arrayIndex ≠ kBacnetNoArrayIndex
  · simp only [if_pos indexed]
    intro written behind
    rw [exec_offset_bind]
    refine (keeps_behind_require _).bind (fun _ => ?_) written behind
    exact (keeps_behind_put _).bind fun _ => value
  · simp only [if_neg indexed]
    exact value

/-- A writer that left the buffer does not come back. -/
theorem keeps_behind_covValues
    (entries : List BacnetCovPropertyValue) :
    Keeps (Behind bufferSize)
      (putCovPropertyValues bufferSize entries >>= fun _ =>
        closeCovNotification bufferSize) := by
  refine Keeps.bind ?_ fun _ => keeps_behind_closeCovNotification
  induction entries with
  | nil => exact fun _ behind => behind
  | cons entry rest inductionHypothesis =>
      exact (keeps_behind_putCovPropertyValue entry).bind fun _ =>
        inductionHypothesis

/-- The end of a notification whose entries fit. -/
theorem staysInside_closeCovNotification_iff
    {written : List UInt8}
    (header : 4 ≤ written.length)
    (room : written.length + 1 ≤ bufferSize) :
    StaysInside bufferSize
        (exec (closeCovNotification bufferSize) written) ↔
      written.length + 1 ≤ 0xFFFF := by
  have closed : (written ++ [0x4F]).length = written.length + 1 := by
    rw [List.length_append, List.length_singleton]
  rw [closeCovNotification, exec_offset_bind,
    exec_require_bind_of_true (decide_eq_true room), exec_put_bind]
  constructor
  · intro inside
    have announces := inside.announces rfl
    rw [exec_storeLength,
      announcedSize_storeLength (by omega)] at announces
    rw [List.length_set, List.length_set, closed] at announces
    omega
  · intro short
    exact staysInside_storeLength (by omega) (by omega) (by omega)

/-- The entries of a notification and its end. -/
theorem staysInside_covValues_iff
    (size : bufferSize < 2 ^ 32)
    {entries : List BacnetCovPropertyValue}
    (nonempty : entries ≠ [])
    {written : List UInt8}
    (header : 4 ≤ written.length)
    (room : written.length ≤ bufferSize) :
    StaysInside bufferSize
        (exec
          (putCovPropertyValues bufferSize entries >>= fun _ =>
            closeCovNotification bufferSize) written) ↔
      ¬Overruns bufferSize written.length entries ∧
        ¬Unannounced bufferSize written.length entries := by
  induction entries generalizing written with
  | nil => exact absurd rfl nonempty
  | cons entry rest inductionHypothesis =>
      rw [putCovPropertyValues, bind_assoc]
      obtain ⟨overruns, octets, wrote, behind⟩ |
          ⟨notOver, unfit, octets, refused, inside⟩ |
          ⟨notOver, admitted, value, encoded, fits, wrote⟩ :=
        @exec_putCovPropertyValue_cases bufferSize entry written size room
      · rw [exec_bind_of_some wrote]
        refine iff_of_false (fun inside => ?_) fun safe =>
          safe.1 (overruns_cons_iff.mpr (Or.inl overruns))
        exact absurd inside.bounded
          (Nat.not_le.mpr (keeps_behind_covValues rest octets behind))
      · rw [exec_bind_of_none refused]
        refine iff_of_true (staysInside_none_iff.mpr inside) ⟨?_, ?_⟩
        · intro overruns
          obtain at_ | ⟨value, encoded, later⟩ :=
            overruns_cons_iff.mp overruns
          · exact notOver at_
          · have later := room_of_overruns later
            exact unfit value encoded (admits_of_room later) (by omega)
        · intro long
          by_cases last : rest = []
          · rw [last] at long
            obtain ⟨value, encoded, admitted, _, fits⟩ :=
              unannounced_singleton_iff.mp long
            exact unfit value encoded admitted fits
          · obtain ⟨value, encoded, later⟩ :=
              (unannounced_cons_iff last).mp long
            have later := room_of_unannounced later
            exact unfit value encoded (admits_of_room later) (by omega)
      · have reached :
            (written ++ covEntryOctets entry value).length =
              written.length + (covEntryOctets entry value).length :=
          List.length_append
        have unique {other : List UInt8}
            (otherEncoded : applicationOctets entry.value = some other) :
            other = value :=
          Option.some.inj (otherEncoded.symm.trans encoded)
        rw [exec_bind_of_some wrote]
        by_cases last : rest = []
        · rw [last]
          refine Iff.trans (staysInside_closeCovNotification_iff
            (by omega) (by omega)) ?_
          rw [unannounced_singleton_iff, overruns_cons_iff, reached]
          constructor
          · intro short
            refine ⟨?_, ?_⟩
            · rintro (overruns | ⟨_, _, later⟩)
              · exact notOver overruns
              · exact not_overruns_nil later
            · rintro ⟨other, otherEncoded, _, long, _⟩
              rw [unique otherEncoded] at long
              exact absurd short (Nat.not_le.mpr long)
          · rintro ⟨_, short⟩
            by_contra long
            exact short
              ⟨value, encoded, admitted, Nat.lt_of_not_le long, fits⟩
        · rw [inductionHypothesis last (by omega) (by omega), reached,
            overruns_cons_iff, unannounced_cons_iff last]
          constructor
          · rintro ⟨safe, short⟩
            refine ⟨?_, ?_⟩
            · rintro (overruns | ⟨other, otherEncoded, later⟩)
              · exact notOver overruns
              · exact safe (unique otherEncoded ▸ later)
            · rintro ⟨other, otherEncoded, later⟩
              exact short (unique otherEncoded ▸ later)
          · rintro ⟨safe, short⟩
            exact ⟨fun later => safe (Or.inr ⟨value, encoded, later⟩),
              fun later => short ⟨value, encoded, later⟩⟩

end Entries

namespace CovNotificationArguments

variable (arguments : CovNotificationArguments)

/-- The writer of a notification. -/
def writer (bufferSize : Nat) : PacketWriter Unit :=
  writeCovNotification bufferSize arguments.processId
    arguments.initiatingDevice arguments.monitoredObject
    arguments.timeRemainingSeconds arguments.values arguments.confirmed
    arguments.invokeId

/-- Where the entries of a notification start. -/
def entriesOffset : Nat :=
  (if arguments.confirmed then 10 else 8) +
    contextUnsignedSize arguments.processId + 10 +
    contextUnsignedSize arguments.timeRemainingSeconds + 1

/-- The checks of the builder in front of the first octet pass. -/
structure Accepted (bufferSize : Nat) : Prop where
  nonempty : arguments.values ≠ []
  initiatingDevice :
    arguments.initiatingDevice.instance_ ≤ kObjectInstanceMask
  monitoredObject :
    arguments.monitoredObject.instance_ ≤ kObjectInstanceMask
  large : 32 ≤ bufferSize

/--
An accepted notification has no entry that overruns, and is not longer than
its header can announce.
-/
def HasRoom (bufferSize : Nat) : Prop :=
  arguments.Accepted bufferSize →
    ¬Overruns bufferSize arguments.entriesOffset arguments.values ∧
      ¬Unannounced bufferSize arguments.entriesOffset arguments.values

variable {arguments} {bufferSize : Nat}

/-- A notification stays inside exactly where its entries do. -/
theorem staysInside_iff
    (size : bufferSize < 2 ^ 32) :
    StaysInside bufferSize (exec (arguments.writer bufferSize) []) ↔
      arguments.HasRoom bufferSize := by
  rw [writer, writeCovNotification, HasRoom]
  cases checks :
    (!arguments.values.isEmpty &&
      decide (arguments.initiatingDevice.instance_ ≤ kObjectInstanceMask) &&
      decide (arguments.monitoredObject.instance_ ≤ kObjectInstanceMask) &&
      decide (32 ≤ bufferSize)) with
  | false =>
      refine iff_of_true (staysInside_none_iff.mpr (Nat.zero_le _)) ?_
      rintro ⟨nonempty, device, object, large⟩
      simp [nonempty, device, object, large] at checks
  | true =>
      simp only [Bool.and_eq_true, decide_eq_true_eq,
        Bool.not_eq_eq_eq_not, Bool.not_true,
        List.isEmpty_eq_false_iff] at checks
      obtain ⟨⟨⟨nonempty, device⟩, object⟩, large⟩ := checks
      rw [imp_iff_right ⟨nonempty, device, object, large⟩,
        exec_require_bind_of_true rfl, putHeaders, exec_put_bind]
      refine Iff.trans (iff_of_eq (congrArg (StaysInside bufferSize)
        (exec_service_bind _ _))) ?_
      generalize headed :
        [] ++ [kBvlcTypeBacnetIp, kBvlcOriginalUnicastNpdu, 0, 0,
          kNpduVersion,
          if arguments.confirmed = true then kNpduExpectingReply else 0] ++
          arguments.serviceOctets = headers
      have process := contextUnsignedSize_le arguments.processId
      have time := contextUnsignedSize_le arguments.timeRemainingSeconds
      have service :
          headers.length = if arguments.confirmed then 10 else 8 := by
        rw [← headed, serviceOctets]
        cases arguments.confirmed <;> rfl
      have few : headers.length ≤ 10 := by
        rw [service]
        split <;> decide
      have enough : 20 ≤ bufferSize - headers.length := by omega
      rw [exec_offset_bind, sizeSub_of_le (by omega) size,
        exec_require_bind_of_true (decide_eq_true enough), exec_put_bind,
        exec_put_bind, exec_put_bind, exec_put_bind, exec_put_bind]
      have sized :
          (headers ++ contextUnsigned 0 arguments.processId ++
            contextObjectIdentifier 1 arguments.initiatingDevice ++
            contextObjectIdentifier 2 arguments.monitoredObject ++
            contextUnsigned 3 arguments.timeRemainingSeconds ++
            [0x4E]).length = arguments.entriesOffset := by
        simp only [List.length_append, length_contextUnsigned,
          contextObjectIdentifier, length_bigEndianOctets,
          List.length_cons, List.length_nil, entriesOffset, service]
      have fits : arguments.entriesOffset ≤ bufferSize := by
        rw [entriesOffset, ← service]
        omega
      have header : 4 ≤ arguments.entriesOffset := by
        rw [entriesOffset]
        omega
      rw [← sized]
      exact staysInside_covValues_iff size nonempty
        (header.trans_eq sized.symm) (sized.trans_le fits)

end CovNotificationArguments

/-- Write a packet that is laid out at once, if there is one. -/
def putPacket (packet : Option (List UInt8)) : PacketWriter Unit :=
  match packet with
  | some octets => put octets
  | none => fail

/-- The entries of a list of character strings. -/
def characterStringEntry
    (strings : List (Option (List UInt8)))
    (index : Nat) : Option BacnetValue :=
  match strings[index]?.join with
  | none => none
  | some text =>
      if kMaxTextLength ≤ text.length then
        none
      else
        some { type := .characterString, text := text }

/-- A call of one of the builders, without the buffer. -/
inductive BuilderCall where
  | whoIs
  | simpleAck (invokeId serviceChoice : UInt8)
  | writePropertyAck (invokeId : UInt8)
  | reject (invokeId reason : UInt8)
  | serviceError
      (invokeId serviceChoice : UInt8)
      (errorClass errorCode : UInt32)
  | readPropertyError (invokeId : UInt8) (errorClass errorCode : UInt32)
  | writePropertyError (invokeId : UInt8) (errorClass errorCode : UInt32)
  | iAm (device : BacnetIAmDeviceInfo)
  | readPropertyAck
      (request : BacnetReadPropertyRequestHeader)
      (value : BacnetValue)
  | priorityArrayAck
      (request : BacnetReadPropertyRequestHeader)
      (slotCount : Nat)
      (valueAt : Nat → Option BacnetValue)
  | characterStringListAck
      (request : BacnetReadPropertyRequestHeader)
      (strings : List (Option (List UInt8)))
      (stringCount : Nat)
  | objectListAck
      (request : BacnetReadPropertyRequestHeader)
      (objectCount : Nat)
      (objectAt : Nat → Option BacnetObjectId)
  | propertyListAck
      (request : BacnetReadPropertyRequestHeader)
      (propertyCount : Nat)
      (propertyAt : Nat → Option BacnetPropertyId)
  | emptyListAck (request : BacnetReadPropertyRequestHeader)
  | covNotification (arguments : CovNotificationArguments)
  | readProperty (request : BacnetPropertyRequest) (invokeId : UInt8)
  | writeProperty
      (object : BacnetObjectId)
      (property : BacnetPropertyId)
      (value : BacnetValue)
      (options : BacnetWritePropertyOptions)
      (invokeId : UInt8)
  | subscribeCov
      (processId : UInt32)
      (object : BacnetObjectId)
      (lifetimeSeconds : UInt32)
      (issueConfirmedNotifications : Bool)
  | subscribeCovProperty
      (processId : UInt32)
      (object : BacnetObjectId)
      (property : BacnetPropertyId)
      (lifetimeSeconds : UInt32)
      (issueConfirmedNotifications : Bool)
      (arrayIndex : UInt32)
      (hasCovIncrement : Bool)
      (covIncrement : Binary32)

namespace BuilderCall

/-- The packet a builder returns. -/
def build (bufferSize : Nat) : BuilderCall → Option (List UInt8)
  | whoIs => buildWhoIsRequest bufferSize
  | simpleAck invokeId serviceChoice =>
      buildSimpleAckResponse bufferSize invokeId serviceChoice
  | writePropertyAck invokeId => buildWritePropertyAck bufferSize invokeId
  | reject invokeId reason => buildRejectResponse bufferSize invokeId reason
  | serviceError invokeId serviceChoice errorClass errorCode =>
      buildServiceErrorResponse bufferSize invokeId serviceChoice
        errorClass errorCode
  | readPropertyError invokeId errorClass errorCode =>
      buildReadPropertyError bufferSize invokeId errorClass errorCode
  | writePropertyError invokeId errorClass errorCode =>
      buildWritePropertyError bufferSize invokeId errorClass errorCode
  | iAm device => buildIAmResponse bufferSize device
  | readPropertyAck request value =>
      buildReadPropertyAck bufferSize request value
  | priorityArrayAck request slotCount valueAt =>
      buildReadPropertyPriorityArrayAck bufferSize request slotCount valueAt
  | characterStringListAck request strings stringCount =>
      buildReadPropertyCharacterStringListAck bufferSize request strings
        stringCount
  | objectListAck request objectCount objectAt =>
      buildReadPropertyObjectListAck bufferSize request objectCount objectAt
  | propertyListAck request propertyCount propertyAt =>
      buildReadPropertyPropertyListAck bufferSize request propertyCount
        propertyAt
  | emptyListAck request => buildReadPropertyEmptyListAck bufferSize request
  | covNotification arguments => arguments.build bufferSize
  | readProperty request invokeId =>
      buildReadPropertyRequest bufferSize request invokeId
  | writeProperty object property value options invokeId =>
      buildWritePropertyRequest bufferSize object property value options
        invokeId
  | subscribeCov processId object lifetimeSeconds confirmed =>
      buildSubscribeCovRequest bufferSize processId object lifetimeSeconds
        confirmed
  | subscribeCovProperty processId object property lifetimeSeconds
      confirmed arrayIndex hasCovIncrement covIncrement =>
      buildSubscribeCovPropertyRequest bufferSize processId object property
        lifetimeSeconds confirmed arrayIndex hasCovIncrement covIncrement

/-- What a builder writes, whether or not it returns a packet. -/
def writer (bufferSize : Nat) : BuilderCall → PacketWriter Unit
  | whoIs => putPacket (buildWhoIsRequest bufferSize)
  | simpleAck invokeId serviceChoice =>
      putPacket (buildSimpleAckResponse bufferSize invokeId serviceChoice)
  | writePropertyAck invokeId =>
      putPacket (buildWritePropertyAck bufferSize invokeId)
  | reject invokeId reason =>
      putPacket (buildRejectResponse bufferSize invokeId reason)
  | serviceError invokeId serviceChoice errorClass errorCode =>
      writeServiceErrorResponse bufferSize invokeId serviceChoice
        errorClass errorCode
  | readPropertyError invokeId errorClass errorCode =>
      writeServiceErrorResponse bufferSize invokeId kServiceReadProperty
        errorClass errorCode
  | writePropertyError invokeId errorClass errorCode =>
      writeServiceErrorResponse bufferSize invokeId kServiceWriteProperty
        errorClass errorCode
  | iAm device => writeIAmResponse bufferSize device
  | readPropertyAck request value =>
      writeReadPropertyAck bufferSize request value
  | priorityArrayAck request slotCount valueAt =>
      if request.request.property ≠ .priorityArray then
        fail
      else
        writeReadPropertyArrayAck bufferSize request slotCount valueAt
  | characterStringListAck request strings stringCount =>
      if request.request.property ≠ .stateText then
        fail
      else
        writeReadPropertyArrayAck bufferSize request stringCount
          (characterStringEntry strings)
  | objectListAck request objectCount objectAt =>
      writeReadPropertyArrayAck bufferSize request objectCount fun index =>
        (objectAt index).map fun object =>
          { type := .objectIdentifier, objectValue := object }
  | propertyListAck request propertyCount propertyAt =>
      writeReadPropertyArrayAck bufferSize request propertyCount
        fun index =>
          (propertyAt index).map fun property =>
            enumeratedValue property.raw
  | emptyListAck request => writeReadPropertyEmptyListAck bufferSize request
  | covNotification arguments => arguments.writer bufferSize
  | readProperty request invokeId =>
      writeReadPropertyRequest bufferSize request invokeId
  | writeProperty object property value options invokeId =>
      writeWritePropertyRequest bufferSize object property value options
        invokeId
  | subscribeCov processId object lifetimeSeconds confirmed =>
      writeSubscribeCovRequest bufferSize processId object lifetimeSeconds
        confirmed
  | subscribeCovProperty processId object property lifetimeSeconds
      confirmed arrayIndex hasCovIncrement covIncrement =>
      writeSubscribeCovPropertyRequest bufferSize processId object property
        lifetimeSeconds confirmed arrayIndex hasCovIncrement covIncrement

/-- A packet that is laid out at once is the one returned. -/
theorem build_putPacket
    (packet : Option (List UInt8)) :
    PacketWriter.build (putPacket packet) = packet := by
  cases packet <;> rfl

/-- A builder returns the packet its writer completed. -/
theorem build_writer
    (call : BuilderCall)
    (bufferSize : Nat) :
    PacketWriter.build (call.writer bufferSize) = call.build bufferSize := by
  cases call with
  | whoIs => exact build_putPacket _
  | simpleAck _ _ => exact build_putPacket _
  | writePropertyAck _ => exact build_putPacket _
  | reject _ _ => exact build_putPacket _
  | priorityArrayAck request _ _ =>
      rw [writer, build, buildReadPropertyPriorityArrayAck]
      by_cases other : request.request.property ≠ .priorityArray
      · rw [if_pos other, if_pos other]
        rfl
      · rw [if_neg other, if_neg other]
        rfl
  | characterStringListAck request _ _ =>
      rw [writer, build, buildReadPropertyCharacterStringListAck]
      by_cases other : request.request.property ≠ .stateText
      · rw [if_pos other, if_pos other]
        rfl
      · rw [if_neg other, if_neg other]
        rfl
  | _ => rfl

/--
Nothing is written behind the buffer, and a returned packet fits into it and
announces its own size.
-/
structure Bounded (call : BuilderCall) (bufferSize : Nat) : Prop where
  written : (exec (call.writer bufferSize) []).2.length ≤ bufferSize
  returned :
    ∀ packet, call.build bufferSize = some packet →
      packet.length ≤ bufferSize ∧ announcedSize packet = packet.length

/--
The buffers a call is safe with: the reference of an acknowledgement or of a
write request fits where it is written, and the entries of a notification do.
The other calls measure what they write.
-/
def HasRoom (bufferSize : Nat) : BuilderCall → Prop
  | readPropertyAck request _ =>
      20 ≤ bufferSize → PrefixFits bufferSize request.request
  | priorityArrayAck request slotCount _ =>
      request.request.property = .priorityArray → slotCount ≠ 0 →
        PrefixFits bufferSize request.request
  | characterStringListAck request _ stringCount =>
      request.request.property = .stateText → stringCount ≠ 0 →
        PrefixFits bufferSize request.request
  | objectListAck request objectCount _ =>
      objectCount ≠ 0 → PrefixFits bufferSize request.request
  | propertyListAck request propertyCount _ =>
      propertyCount ≠ 0 → PrefixFits bufferSize request.request
  | emptyListAck request =>
      request.request.arrayIndex = kBacnetNoArrayIndex →
        PrefixFits bufferSize request.request
  | covNotification arguments => arguments.HasRoom bufferSize
  | writeProperty object property _ options _ =>
      writeChecks bufferSize object property options = true →
        15 + referenceSize property options.arrayIndex ≤ bufferSize
  | _ => True

/-- A call is bounded where its writer stays inside the buffer. -/
theorem bounded_iff_staysInside
    {call : BuilderCall}
    {bufferSize : Nat} :
    call.Bounded bufferSize ↔
      StaysInside bufferSize (exec (call.writer bufferSize) []) := by
  constructor
  · rintro ⟨written, returned⟩
    refine ⟨written, fun succeeds => ?_⟩
    have built :
        call.build bufferSize =
          some (exec (call.writer bufferSize) []).2 := by
      rw [← build_writer, build_eq_some_iff, ← succeeds]
    exact (returned _ built).2
  · rintro ⟨bounded, announces⟩
    refine ⟨bounded, fun packet built => ?_⟩
    rw [← build_writer, build_eq_some_iff] at built
    rw [built] at bounded announces
    exact ⟨bounded, announces rfl⟩

/-- A packet that is laid out at once stays inside. -/
theorem staysInside_putPacket
    {bufferSize : Nat}
    {packet : Option (List UInt8)}
    (fits :
      ∀ octets, packet = some octets →
        octets.length ≤ bufferSize ∧
          announcedSize octets = octets.length) :
    StaysInside bufferSize (exec (putPacket packet) []) := by
  cases packet with
  | none => exact staysInside_none_iff.mpr (Nat.zero_le _)
  | some octets =>
      obtain ⟨bounded, announces⟩ := fits octets rfl
      exact ⟨bounded, fun _ => announces⟩

/-- A packet of a known size behind a check of that size stays inside. -/
theorem staysInside_checkedPacket
    {bufferSize required : Nat}
    {octets : List UInt8}
    (sized : octets.length = required)
    (announces : announcedSize octets = octets.length) :
    StaysInside bufferSize
      (exec
        (putPacket
          (if bufferSize < required then none else some octets)) []) := by
  refine staysInside_putPacket fun others built => ?_
  split at built
  · cases built
  · rename_i enough
    obtain rfl := Option.some.inj built
    exact ⟨sized ▸ Nat.le_of_not_lt enough, announces⟩

/--
The bounds of a builder hold exactly for the buffers it has room in: the size
checks in front of a reference, and those in front of an index in a
notification, ask for less than is written behind them, and the length of a
notification is cut to two octets.
-/
theorem bounded_iff
    (call : BuilderCall)
    (bufferSize : UInt32) :
    call.Bounded bufferSize.toNat ↔ call.HasRoom bufferSize.toNat := by
  have size : bufferSize.toNat < 2 ^ 32 := bufferSize.toNat_lt
  rw [bounded_iff_staysInside]
  cases call with
  | whoIs =>
      exact iff_of_true
        (staysInside_checkedPacket (by rfl) (by simp [announcedSize]))
        trivial
  | simpleAck _ _ =>
      exact iff_of_true
        (staysInside_checkedPacket (by rfl) (by simp [announcedSize]))
        trivial
  | writePropertyAck _ =>
      exact iff_of_true
        (staysInside_checkedPacket (by rfl) (by simp [announcedSize]))
        trivial
  | reject _ _ =>
      exact iff_of_true
        (staysInside_checkedPacket (by rfl) (by simp [announcedSize]))
        trivial
  | serviceError _ _ _ _ =>
      exact iff_of_true
        (staysInside_writeServiceErrorResponse size _ _ _ _) trivial
  | readPropertyError _ _ _ =>
      exact iff_of_true
        (staysInside_writeServiceErrorResponse size _ _ _ _) trivial
  | writePropertyError _ _ _ =>
      exact iff_of_true
        (staysInside_writeServiceErrorResponse size _ _ _ _) trivial
  | iAm device =>
      exact iff_of_true (staysInside_writeIAmResponse device) trivial
  | readPropertyAck request value =>
      exact staysInside_writeReadPropertyAck_iff size
  | priorityArrayAck request slotCount valueAt =>
      rw [writer, HasRoom]
      split
      · rename_i other
        exact iff_of_true (staysInside_none_iff.mpr (Nat.zero_le _))
          fun same => absurd same other
      · rename_i same
        rw [imp_iff_right (not_not.mp same)]
        exact staysInside_writeReadPropertyArrayAck_iff size
  | characterStringListAck request strings stringCount =>
      rw [writer, HasRoom]
      split
      · rename_i other
        exact iff_of_true (staysInside_none_iff.mpr (Nat.zero_le _))
          fun same => absurd same other
      · rename_i same
        rw [imp_iff_right (not_not.mp same)]
        exact staysInside_writeReadPropertyArrayAck_iff size
  | objectListAck request objectCount objectAt =>
      exact staysInside_writeReadPropertyArrayAck_iff size
  | propertyListAck request propertyCount propertyAt =>
      exact staysInside_writeReadPropertyArrayAck_iff size
  | emptyListAck request =>
      exact staysInside_writeReadPropertyEmptyListAck_iff
  | covNotification arguments =>
      exact CovNotificationArguments.staysInside_iff size
  | readProperty request invokeId =>
      exact iff_of_true
        (staysInside_writeReadPropertyRequest request invokeId) trivial
  | writeProperty object property value options invokeId =>
      exact staysInside_writeWritePropertyRequest_iff size
  | subscribeCov processId object lifetimeSeconds confirmed =>
      exact iff_of_true
        (staysInside_writeSubscribeCovRequest _ _ _ _) trivial
  | subscribeCovProperty processId object property lifetimeSeconds
      confirmed arrayIndex hasCovIncrement covIncrement =>
      exact iff_of_true
        (staysInside_writeSubscribeCovPropertyRequest _ _ _ _ _ _ _ _)
        trivial

/-- An acknowledgement with a wide property identifier and a wide index. -/
def wideReferenceAck : BuilderCall :=
  .readPropertyAck
    { invokeId := 1
      request := {
        object := ⟨0, 1⟩
        property := ⟨0x10000⟩
        arrayIndex := 0x10000
      } }
    { type := .null }

/-- Into a buffer of 20 octets it writes 24, and then gives up. -/
theorem bounded_not_wideReference :
    (exec (wideReferenceAck.writer 20) []).1 = none ∧
      (exec (wideReferenceAck.writer 20) []).2.length = 24 ∧
      ¬wideReferenceAck.Bounded (20 : UInt32).toNat := by
  have wrote : (exec (wideReferenceAck.writer 20) []).2.length = 24 := by
    decide
  refine ⟨by decide, wrote, fun bounded => ?_⟩
  have inside : (exec (wideReferenceAck.writer 20) []).2.length ≤ 20 :=
    bounded.written
  omega

end BuilderCall

end BacnetStack
