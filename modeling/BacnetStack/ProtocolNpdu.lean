import BacnetStack.ProtocolReaderPrefix

namespace BacnetStack

/-!
# Network headers

A network header has two optional addresses and, behind both of them, a hop
count where there is a destination.  The reader takes the hop count right
behind the destination, so with both addresses it is one octet early in the
source address.
-/

open Reader

/-- A network number with a link-layer address of any length. -/
structure NpduAddress where
  network : UInt16
  address : List UInt8
  short : address.length ≤ 255

/-- `DNET`, `DLEN` and `DADR`, or the same of a source. -/
def NpduAddress.octets (address : NpduAddress) : List UInt8 :=
  (address.network >>> 8).toUInt8 :: address.network.toUInt8 ::
    UInt8.ofNat address.address.length :: address.address

/--
The header of an application message: its control octet says which addresses
are present, and the hop count counts only where there is a destination.
-/
structure ApplicationNpdu where
  control : UInt8
  destination : Option NpduAddress
  source : Option NpduAddress
  hopCount : UInt8
  isApplication : control &&& 0x80 = 0
  announcesDestination : control &&& 0x20 ≠ 0 ↔ destination.isSome = true
  announcesSource : control &&& 0x08 ≠ 0 ↔ source.isSome = true

namespace ApplicationNpdu

variable (npdu : ApplicationNpdu)

/-- The octets of the destination, if there is one. -/
def destinationOctets : List UInt8 :=
  npdu.destination.elim [] NpduAddress.octets

/-- The octets of the source, if there is one. -/
def sourceOctets : List UInt8 :=
  npdu.source.elim [] NpduAddress.octets

/-- The hop count of a message with a destination. -/
def hopCountOctets : List UInt8 :=
  if npdu.destination.isSome then [npdu.hopCount] else []

/-- The header as it is laid out: the hop count is behind the source. -/
def header : List UInt8 :=
  kNpduVersion :: npdu.control ::
    (npdu.destinationOctets ++ npdu.sourceOctets ++ npdu.hopCountOctets)

/-- The header is read exactly, and every part of it is refused. -/
structure ReadExactly (npdu : ApplicationNpdu) : Prop where
  stops :
    ∀ apdu, readNpduHeader.run (npdu.header ++ apdu) = .ok ((), apdu)
  truncated :
    ∀ front, front <+: npdu.header → front ≠ npdu.header →
      ∃ fault, readNpduHeader.run front = .error fault

/--
With both addresses, the octet behind the length of the source address is
that length.
-/
def LengthFollowsItself (npdu : ApplicationNpdu) : Prop :=
  ∀ destination ∈ npdu.destination, ∀ source ∈ npdu.source,
    (source.address ++ [npdu.hopCount]).head? =
      some (UInt8.ofNat source.address.length)

end ApplicationNpdu

/-- The length octet of an address is its length. -/
theorem NpduAddress.toNat_length (address : NpduAddress) :
    (UInt8.ofNat address.address.length).toNat = address.address.length := by
  have short := address.short
  rw [UInt8.toNat_ofNat']
  omega

/-- An address is skipped as its third octet says. -/
theorem run_skipNpduAddress
    (high low length : UInt8)
    (rest : List UInt8) :
    skipNpduAddress.run (high :: low :: length :: rest) =
      if length.toNat ≤ rest.length then
        .ok ((), rest.drop length.toNat)
      else
        .error .rejected := by
  rw [skipNpduAddress, run_bind_of_ok (run_remaining _),
    run_require_bind (by simp), run_bind_of_ok (run_skip _ _),
    List.drop_succ_cons, List.drop_succ_cons, List.drop_zero,
    run_bind_of_ok (run_next_cons _ _), run_bind_of_ok (run_remaining _)]
  by_cases enough : length.toNat ≤ rest.length
  · rw [if_pos enough, run_require_bind (decide_eq_true enough), run_skip]
  · rw [if_neg enough, decide_eq_false enough]
    rfl

/-- An address that is laid out is skipped. -/
theorem run_skipNpduAddress_octets
    (address : NpduAddress)
    (rest : List UInt8) :
    skipNpduAddress.run (address.octets ++ rest) = .ok ((), rest) := by
  rw [NpduAddress.octets, List.cons_append, List.cons_append,
    List.cons_append, run_skipNpduAddress, address.toNat_length,
    if_pos (by rw [List.length_append]; omega), List.drop_left]

namespace ApplicationNpdu

variable {npdu : ApplicationNpdu}

/-- Behind the version, the reader goes by the control octet. -/
theorem run_readNpduHeader_octets
    (npdu : ApplicationNpdu)
    (rest : List UInt8) :
    readNpduHeader.run (kNpduVersion :: npdu.control :: rest) =
      match npdu.destination, npdu.source with
      | none, none => .ok ((), rest)
      | none, some _ => skipNpduAddress.run rest
      | some _, none =>
          (skipNpduAddress >>= fun _ =>
            hasMore >>= fun more => require more >>= fun _ =>
              skip 1).run rest
      | some _, some _ =>
          (skipNpduAddress >>= fun _ =>
            hasMore >>= fun more => require more >>= fun _ =>
              skip 1 >>= fun _ => skipNpduAddress).run rest := by
  have application : (npdu.control &&& 0x80 == 0) = true :=
    beq_iff_eq.mpr npdu.isApplication
  have destination :
      (npdu.control &&& 0x20 != 0) = npdu.destination.isSome := by
    rw [Bool.eq_iff_iff, bne_iff_ne]
    exact npdu.announcesDestination
  have source : (npdu.control &&& 0x08 != 0) = npdu.source.isSome := by
    rw [Bool.eq_iff_iff, bne_iff_ne]
    exact npdu.announcesSource
  rw [readNpduHeader, run_bind_of_ok (run_expect_cons _ _),
    run_bind_of_ok (run_checkedNext_cons _ _),
    run_require_bind application, destination, source]
  cases npdu.destination with
  | none => cases npdu.source <;> rfl
  | some destination => cases npdu.source <;> rfl

/-- A hop count behind the octets of a destination is skipped with them. -/
theorem run_destination_bind
    {α : Type}
    (destination : NpduAddress)
    (skipped : UInt8)
    (rest : List UInt8)
    (continuation : Unit → Reader α) :
    (skipNpduAddress >>= fun _ =>
        hasMore >>= fun more => require more >>= fun _ =>
          skip 1 >>= continuation).run
        (destination.octets ++ skipped :: rest) =
      (continuation ()).run rest := by
  rw [run_bind_of_ok (run_skipNpduAddress_octets destination _)]
  rfl

/-- With one address at most, the reader stops behind the header. -/
theorem run_readNpduHeader_of_one
    (one : npdu.destination = none ∨ npdu.source = none)
    (apdu : List UInt8) :
    readNpduHeader.run (npdu.header ++ apdu) = .ok ((), apdu) := by
  rw [header, List.cons_append, List.cons_append,
    npdu.run_readNpduHeader_octets, destinationOctets, sourceOctets,
    hopCountOctets]
  cases toDestination : npdu.destination with
  | none =>
      cases fromSource : npdu.source with
      | none => rfl
      | some source =>
          change skipNpduAddress.run
            (([] ++ source.octets ++ []) ++ apdu) = _
          rw [List.nil_append, List.append_nil,
            run_skipNpduAddress_octets]
  | some destination =>
      obtain fromNone | fromNone := one
      · rw [toDestination] at fromNone
        cases fromNone
      · rw [fromNone]
        change (skipNpduAddress >>= _).run
          ((destination.octets ++ [] ++ [npdu.hopCount]) ++ apdu) = _
        rw [List.append_nil, List.append_assoc]
        exact run_destination_bind destination npdu.hopCount apdu pure

/-- With both addresses, the reader goes by the octet behind the length. -/
theorem run_readNpduHeader_of_both
    {destination source : NpduAddress}
    (toDestination : npdu.destination = some destination)
    (fromSource : npdu.source = some source)
    {length : UInt8}
    {others : List UInt8}
    (shifted : source.address ++ [npdu.hopCount] = length :: others)
    (apdu : List UInt8) :
    readNpduHeader.run (npdu.header ++ apdu) =
      if length.toNat ≤ (others ++ apdu).length then
        .ok ((), (others ++ apdu).drop length.toNat)
      else
        .error .rejected := by
  have laidOut :
      npdu.header ++ apdu =
        kNpduVersion :: npdu.control ::
          (destination.octets ++ (source.network >>> 8).toUInt8 ::
            source.network.toUInt8 ::
            UInt8.ofNat source.address.length :: length ::
            (others ++ apdu)) := by
    rw [header, destinationOctets, sourceOctets, hopCountOctets,
      toDestination, fromSource]
    change _ :: _ :: ((destination.octets ++ source.octets ++
      [npdu.hopCount]) ++ apdu) = _
    rw [List.append_assoc, List.append_assoc, NpduAddress.octets,
      NpduAddress.octets]
    have behind :
        source.address ++ npdu.hopCount :: apdu =
          length :: (others ++ apdu) := by
      rw [← List.cons_append, ← shifted, List.append_assoc]
      rfl
    simp only [List.cons_append, List.nil_append, behind]
  rw [laidOut, npdu.run_readNpduHeader_octets, toDestination, fromSource]
  dsimp only
  rw [run_destination_bind, run_skipNpduAddress]

/-- The reader stops behind the header where the length follows itself. -/
theorem stops_iff :
    (∀ apdu,
      readNpduHeader.run (npdu.header ++ apdu) = .ok ((), apdu)) ↔
      npdu.LengthFollowsItself := by
  by_cases one : npdu.destination = none ∨ npdu.source = none
  · refine iff_of_true (run_readNpduHeader_of_one one) ?_
    intro destination isDestination source isSource
    rcases one with absent | absent
    · rw [absent] at isDestination
      cases isDestination
    · rw [absent] at isSource
      cases isSource
  obtain ⟨someDestination, someSource⟩ := not_or.mp one
  obtain ⟨destination, toDestination⟩ :=
    Option.ne_none_iff_exists'.mp someDestination
  obtain ⟨source, fromSource⟩ := Option.ne_none_iff_exists'.mp someSource
  obtain ⟨length, others, shifted⟩ :=
    List.exists_cons_of_ne_nil
      (show source.address ++ [npdu.hopCount] ≠ [] by simp)
  have sized : others.length = source.address.length := by
    have lengths := congrArg List.length shifted
    rw [List.length_append, List.length_singleton, List.length_cons]
      at lengths
    omega
  have follows :
      npdu.LengthFollowsItself ↔
        length.toNat = source.address.length := by
    unfold LengthFollowsItself
    rw [toDestination, fromSource]
    simp only [Option.mem_some_iff, forall_eq', shifted, List.head?_cons,
      Option.some.injEq]
    conv => rhs; rw [← source.toNat_length]
    exact UInt8.toNat_inj.symm
  rw [follows]
  simp only [run_readNpduHeader_of_both toDestination fromSource shifted]
  constructor
  · intro stops
    have empty := stops []
    rw [List.append_nil] at empty
    split at empty
    · rename_i enough
      have nothing : others.drop length.toNat = [] := by
        simpa using empty
      have all := List.drop_eq_nil_iff.mp nothing
      omega
    · cases empty
  · intro same apdu
    rw [if_pos (by rw [List.length_append]; omega), same, ← sized,
      List.drop_left]

/-- A reader that stops behind the header refuses every part of it. -/
theorem truncated_of_stops
    (stops :
      ∀ apdu,
        readNpduHeader.run (npdu.header ++ apdu) = .ok ((), apdu))
    {front : List UInt8}
    (isFront : front <+: npdu.header)
    (isProper : front ≠ npdu.header) :
    ∃ fault, readNpduHeader.run front = .error fault := by
  cases read : readNpduHeader.run front with
  | error fault => exact ⟨fault, rfl⟩
  | ok outcome =>
      obtain ⟨⟨⟩, rest⟩ := outcome
      obtain ⟨missing, whole⟩ := isFront
      have same :=
        takes_readNpduHeader.run_append read (Nat.zero_le _) missing
      have exactly_ := stops []
      rw [List.append_nil, ← whole, same] at exactly_
      have nothing : rest ++ missing = [] :=
        congrArg Prod.snd (Except.ok.inj exactly_)
      rw [List.append_eq_nil_iff.mp nothing |>.2, List.append_nil] at whole
      exact absurd whole isProper

/--
The header is read exactly where it does not have both addresses, or where
the octet behind the length of the source address repeats that length.
-/
theorem readExactly_iff (npdu : ApplicationNpdu) :
    npdu.ReadExactly ↔ npdu.LengthFollowsItself := by
  rw [← stops_iff]
  constructor
  · exact ReadExactly.stops
  · intro stops
    exact ⟨stops, fun _ => truncated_of_stops stops⟩

/-- A message from one remote station to another, both with one octet. -/
def routedNpdu : ApplicationNpdu where
  control := 0x28
  destination := some ⟨1, [5], by decide⟩
  source := some ⟨2, [7], by decide⟩
  hopCount := 255
  isApplication := by decide
  announcesDestination := by decide
  announcesSource := by decide

/-- The address of the source is taken for its length. -/
theorem not_readExactly_routedNpdu :
    ¬∀ npdu : ApplicationNpdu, npdu.ReadExactly := by
  intro always
  have read := (always routedNpdu).stops [0x10, 0x08]
  cases read

/-- An address of one octet that is 1 happens to be read exactly. -/
example :
    readNpduHeader.run
        [1, 0x28, 0, 1, 1, 5, 0, 2, 1, 1, 255, 0x10, 0x08] =
      .ok ((), [0x10, 0x08]) :=
  rfl

end ApplicationNpdu

end BacnetStack
