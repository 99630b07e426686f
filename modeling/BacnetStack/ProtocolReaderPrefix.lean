import BacnetStack.ProtocolNumbers
import BacnetStack.ProtocolResponseDecode

namespace BacnetStack

/-!
# Readers and what follows

A reader takes octets from the front of a packet.  What stands behind the
octets it takes does not change its outcome, so a packet that was accepted is
read alike with more octets behind it; only the readers of lists and of
optional fields have to see where they end.
-/

open Reader

/--
The reader takes at least `taken` octets.  Where it leaves at least `left` of
them, it does the same with more octets behind.
-/
def Takes {α : Type}
    (taken : Nat)
    (reader : Reader α)
    (left : Nat) : Prop :=
  ∀ packet value rest, reader.run packet = .ok (value, rest) →
    rest.length + taken ≤ packet.length ∧
      (left ≤ rest.length →
        ∀ suffix,
          reader.run (packet ++ suffix) = .ok (value, rest ++ suffix))

section Rules

variable {α β : Type} {taken more total left later : Nat}

/-- With enough octets left, what follows does not matter. -/
theorem Takes.run_append
    {reader : Reader α}
    (takes : Takes taken reader left)
    {packet rest : List UInt8}
    {value : α}
    (read : reader.run packet = .ok (value, rest))
    (enough : left ≤ rest.length)
    (suffix : List UInt8) :
    reader.run (packet ++ suffix) = .ok (value, rest ++ suffix) :=
  (takes packet value rest read).2 enough suffix

/-- A reader leaves no more than it was given, less what it takes. -/
theorem Takes.length_le
    {reader : Reader α}
    (takes : Takes taken reader left)
    {packet rest : List UInt8}
    {value : α}
    (read : reader.run packet = .ok (value, rest)) :
    rest.length + taken ≤ packet.length :=
  (takes packet value rest read).1

/-- Less may be promised. -/
theorem Takes.weaken
    {taken' left' : Nat}
    {reader : Reader α}
    (takes : Takes taken reader left)
    (fewer : taken' ≤ taken)
    (enough : left ≤ left') :
    Takes taken' reader left' := by
  intro packet value rest read
  obtain ⟨shorter, same⟩ := takes packet value rest read
  exact ⟨by omega, fun leaves => same (enough.trans leaves)⟩

/-- The octets the second reader takes are left by the first one. -/
theorem Takes.bind
    {reader : Reader α}
    {continuation : α → Reader β}
    (first : Takes taken reader left)
    (second : ∀ value, Takes more (continuation value) later)
    (enough : left ≤ more + later)
    (atMost : total ≤ taken + more) :
    Takes total (reader >>= continuation) later := by
  intro packet value rest read
  obtain ⟨middle, unread, readFirst, readSecond⟩ :=
    run_bind_eq_ok_iff.mp read
  have shorter := first.length_le readFirst
  have shorterRest := (second middle).length_le readSecond
  refine ⟨by omega, fun leaves suffix => ?_⟩
  rw [run_bind_of_ok (first.run_append readFirst (by omega) suffix)]
  exact (second middle).run_append readSecond leaves suffix

/-- A value takes nothing. -/
theorem takes_pure
    (value : α) :
    Takes 0 (pure value) 0 := by
  rintro packet _ _ ⟨⟩
  exact ⟨le_rfl, fun _ _ => rfl⟩

/-- A reader that fails takes whatever it promises. -/
theorem takes_reject : Takes taken (reject : Reader α) left :=
  nofun

/-- A check takes nothing. -/
theorem takes_require
    (holds : Bool) :
    Takes 0 (require holds) 0 := by
  cases holds with
  | false => exact takes_reject
  | true => exact takes_pure ()

/-- What follows a check is read only where the check passed. -/
theorem takes_require_bind
    {holds : Bool}
    {continuation : Unit → Reader α}
    (continues : holds = true → Takes taken (continuation ()) left) :
    Takes taken (require holds >>= continuation) left := by
  cases holds with
  | false => exact nofun
  | true => exact continues rfl

/-- One octet is taken. -/
theorem takes_next : Takes 1 next 0 := by
  intro packet value rest read
  cases packet with
  | nil => cases read
  | cons octet others =>
      cases read
      exact ⟨le_rfl, fun _ _ => rfl⟩

/-- A look at the next octet takes nothing. -/
theorem takes_peek : Takes 0 peek 0 := by
  intro packet value rest read
  cases packet with
  | nil => cases read
  | cons octet others =>
      cases read
      exact ⟨le_rfl, fun _ _ => rfl⟩

theorem takes_checkedNext : Takes 1 checkedNext 0 := by
  intro packet value rest read
  cases packet with
  | nil => cases read
  | cons octet others =>
      cases read
      exact ⟨le_rfl, fun _ _ => rfl⟩

theorem takes_expect
    (octet : UInt8) :
    Takes 1 (expect octet) 0 :=
  takes_checkedNext.bind (fun _ => takes_require _) (by omega) (by omega)

/-- Octets that are skipped must be there when more may follow. -/
theorem takes_skip
    (count : Nat) :
    Takes 0 (skip count) 1 := by
  rintro packet _ _ ⟨⟩
  refine ⟨by rw [List.length_drop]; omega, fun leaves suffix => ?_⟩
  change 1 ≤ (packet.drop count).length at leaves
  rw [List.length_drop] at leaves
  change Except.ok ((), (packet ++ suffix).drop count) = _
  rw [List.drop_append_of_le_length (by omega)]

/-- A reader that asks for octets takes some or stops. -/
theorem takes_require_hasMore_bind
    {continuation : Unit → Reader α}
    (continues : Takes taken (continuation ()) left) :
    Takes taken (hasMore >>= fun more => require more >>= continuation)
      left := by
  intro packet value rest read
  cases packet with
  | nil => cases read
  | cons octet others =>
      obtain ⟨shorter, same⟩ := continues _ _ _ read
      exact ⟨shorter, fun leaves suffix => same leaves suffix⟩

/-- A check of the length passes as well when more octets follow. -/
theorem takes_require_remaining_bind
    {holds : Nat → Bool}
    {continuation : Unit → Reader α}
    (monotone :
      ∀ length longer, length ≤ longer →
        holds length = true → holds longer = true)
    (continues : Takes taken (continuation ()) left) :
    Takes taken
      (remaining >>= fun length =>
        require (holds length) >>= continuation) left := by
  intro packet value rest read
  have measured (octets : List UInt8) :
      (remaining >>= fun length =>
        require (holds length) >>= continuation).run octets =
        (require (holds octets.length) >>= continuation).run octets :=
    rfl
  rw [measured] at read
  cases passes : holds packet.length with
  | false =>
      rw [passes] at read
      cases read
  | true =>
      rw [passes] at read
      obtain ⟨shorter, same⟩ := continues _ _ _ read
      refine ⟨shorter, fun leaves suffix => ?_⟩
      have longer := monotone packet.length (packet ++ suffix).length
        (by rw [List.length_append]; omega) passes
      rw [measured, longer]
      exact same leaves suffix

/-- Octets that were measured can be skipped. -/
theorem takes_checkedSkip_bind
    {count : Nat}
    {continuation : Unit → Reader α}
    (continues : Takes taken (continuation ()) left) :
    Takes (count + taken)
      (remaining >>= fun length =>
        require (decide (count ≤ length)) >>= fun _ =>
          skip count >>= continuation) left := by
  intro packet value rest read
  have measured (octets : List UInt8) :
      (remaining >>= fun length =>
        require (decide (count ≤ length)) >>= fun _ =>
          skip count >>= continuation).run octets =
        (require (decide (count ≤ octets.length)) >>= fun _ =>
          skip count >>= continuation).run octets :=
    rfl
  rw [measured] at read
  by_cases passes : count ≤ packet.length
  · rw [decide_eq_true passes] at read
    obtain ⟨shorter, same⟩ :=
      continues (packet.drop count) value rest read
    rw [List.length_drop] at shorter
    refine ⟨by omega, fun leaves suffix => ?_⟩
    have kept :
        (packet ++ suffix).drop count = packet.drop count ++ suffix :=
      List.drop_append_of_le_length passes
    rw [measured, decide_eq_true (by rw [List.length_append]; omega)]
    change (continuation ()).run ((packet ++ suffix).drop count) = _
    rw [kept]
    exact same leaves suffix
  · rw [decide_eq_false passes] at read
    cases read

/-- A number takes its octets. -/
theorem takes_bigEndian
    (count : Nat)
    (value : UInt32) :
    Takes count (bigEndian count value) 0 := by
  induction count generalizing value with
  | zero => exact takes_pure value
  | succ count inductionHypothesis =>
      exact takes_next.bind (fun _ => inductionHypothesis _)
        (by omega) (by omega)

/-- A field takes its length. -/
theorem takes_takeBytes
    (count : Nat) :
    Takes count (takeBytes count) 0 := by
  induction count with
  | zero => exact takes_pure []
  | succ count inductionHypothesis =>
      refine takes_next.bind (fun _ => ?_) (by omega) (Nat.add_comm _ _).le
      exact inductionHypothesis.bind (fun _ => takes_pure _)
        (by omega) (by omega)

theorem takes_ofText
    (text : Option (List UInt8)) :
    Takes 0 (Reader.ofText text) 0 := by
  cases text with
  | none => exact takes_reject
  | some text => exact takes_pure text

end Rules

section Fields

/-- A tag and its number are at least two octets. -/
theorem takes_readApplicationValue
    (expectedTag : UInt8) :
    Takes 1 (readApplicationValue expectedTag) 0 := by
  refine takes_checkedNext.bind (fun tag => ?_)
    (Nat.zero_le _) (Nat.add_zero 1).ge
  refine takes_require_remaining_bind
    (fun length longer longerIs passes => ?_)
    ((takes_bigEndian (tag &&& 0x07).toNat 0).weaken (Nat.zero_le _) le_rfl)
  simp only [Bool.and_eq_true, decide_eq_true_eq] at passes ⊢
  exact ⟨passes.1, passes.2.trans longerIs⟩

/-- A context value takes its tag at least. -/
theorem takes_readContextValue
    (expectedTag : UInt8) :
    Takes 1 (readContextValue expectedTag) 0 := by
  refine takes_checkedNext.bind (fun tag => ?_)
    (Nat.zero_le _) (Nat.add_zero 1).ge
  refine takes_require_remaining_bind
    (fun length longer longerIs passes => ?_)
    ((takes_bigEndian (tag &&& 0x07).toNat 0).weaken (Nat.zero_le _) le_rfl)
  simp only [Bool.and_eq_true, decide_eq_true_eq] at passes ⊢
  exact ⟨passes.1, passes.2.trans longerIs⟩

theorem takes_skipNpduAddress : Takes 3 skipNpduAddress 0 := by
  have header :
      skipNpduAddress =
        remaining >>= fun length =>
          require (decide (3 ≤ length)) >>= fun _ =>
            skip 2 >>= fun _ =>
              next >>= fun addressLength =>
                remaining >>= fun length =>
                  require (decide (addressLength.toNat ≤ length)) >>=
                    fun _ => skip addressLength.toNat >>= pure := by
    simp only [skipNpduAddress, bind_pure]
  intro packet value rest read
  match packet with
  | [] => cases read
  | [_] => cases read
  | [_, _] => cases read
  | _ :: _ :: addressLength :: others =>
      have takes :=
        @takes_checkedSkip_bind Unit 0 0 addressLength.toNat pure
          (takes_pure ())
      rw [header] at read ⊢
      obtain ⟨shorter, same⟩ := takes others value rest read
      exact ⟨by simp only [List.length_cons]; omega, same⟩

/-- Version and control octet, and whatever the control octet announces. -/
theorem takes_readNpduHeader : Takes 2 readNpduHeader 0 := by
  refine (takes_expect kNpduVersion).bind (fun _ => ?_)
    (Nat.zero_le _) (Nat.le_refl (1 + 1))
  refine takes_checkedNext.bind (fun npduControl => ?_)
    (Nat.zero_le _) (Nat.add_zero 1).ge
  refine takes_require_bind fun _ => ?_
  have source :
      Takes 0
        (if npduControl &&& 0x08 != 0 then skipNpduAddress else pure ())
        0 := by
    split
    · exact takes_skipNpduAddress.weaken (Nat.zero_le _) le_rfl
    · exact takes_pure ()
  dsimp only
  split
  · refine takes_skipNpduAddress.bind (fun _ => ?_)
      (Nat.zero_le (0 + 0)) (Nat.zero_le _)
    -- The hop count is skipped where an octet is left for it.
    intro packet value rest read
    cases packet with
    | nil => cases read
    | cons hopCount others =>
        obtain ⟨shorter, same⟩ := source others value rest read
        exact ⟨by rw [List.length_cons]; omega, same⟩
  · exact source

end Fields

end BacnetStack
