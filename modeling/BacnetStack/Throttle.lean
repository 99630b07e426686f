import BacnetStack.WrappingClock

/-!
# Items thinned out in time

An item passes if it is the first one, or if the clock has gone on far enough
since the item that passed last.  On a clock that wraps the interval is taken
modulo `2 ^ 32`; in true time the items that pass still keep their distance.
-/

namespace Throttle

variable {Item : Type} (interval : UInt32) (stamp : Item → UInt32)

/-- The clock has gone on far enough since the last stamp, if there is one. -/
def passes (last : Option UInt32) (now : UInt32) : Bool :=
  last.all fun since => decide (interval ≤ now - since)

/-- The stamp of the last item that passed, after one more item. -/
def lastAfter (last : Option UInt32) (item : Item) : Option UInt32 :=
  if passes interval last (stamp item) then some (stamp item) else last

/-- The items that pass. -/
def kept : Option UInt32 → List Item → List Item
  | _, [] => []
  | last, item :: rest =>
      if passes interval last (stamp item) then
        item :: kept (some (stamp item)) rest
      else
        kept last rest

variable {interval stamp}

/-- An interval of zero lets everything pass. -/
theorem passes_zero
    (last : Option UInt32)
    (now : UInt32) :
    passes 0 last now = true := by
  unfold passes
  rcases last with _ | since
  · rfl
  · have nonnegative : (0 : UInt32) ≤ now - since :=
      UInt32.le_iff_toNat_le.mpr (Nat.zero_le _)
    exact decide_eq_true nonnegative

theorem kept_zero
    (last : Option UInt32)
    (items : List Item) :
    kept 0 stamp last items = items := by
  induction items generalizing last with
  | nil =>
      rfl
  | cons item rest inductionHypothesis =>
      rw [kept, if_pos (passes_zero last (stamp item)), inductionHypothesis]

/-- One item that may not be there, in front of others. -/
theorem kept_toList
    (last : Option UInt32)
    (item : Option Item)
    (rest : List Item) :
    kept interval stamp last (item.toList ++ rest) =
      (item.filter fun item => passes interval last (stamp item)).toList ++
        kept interval stamp
          ((item.map (lastAfter interval stamp last)).getD last) rest := by
  rcases item with _ | item
  · rfl
  · rw [Option.toList_some, List.singleton_append, kept, Option.map_some,
      Option.getD_some, lastAfter, Option.filter_some]
    split
    · rfl
    · rfl

section

variable {time : Item → Nat}

/-- What passes after an item does so an interval later in true time. -/
theorem le_of_mem_kept
    {items : List Item}
    (stamped :
      ∀ item ∈ items, stamp item = WrappingClock.reading (time item))
    (ordered : items.Pairwise fun earlier later => time earlier ≤ time later)
    {since : Nat}
    (after : ∀ item ∈ items, since ≤ time item) :
    ∀ item ∈ kept interval stamp (some (WrappingClock.reading since)) items,
      since + interval.toNat ≤ time item := by
  induction items generalizing since with
  | nil =>
      intro item isKept
      cases isKept
  | cons first rest inductionHypothesis =>
      rw [List.forall_mem_cons] at stamped after
      rw [List.pairwise_cons] at ordered
      intro item isKept
      unfold kept at isKept
      split at isKept
      · rename_i isPassed
        have isLate :
            interval ≤
              WrappingClock.reading (time first) -
                WrappingClock.reading since := by
          rw [← stamped.1]
          exact of_decide_eq_true isPassed
        rw [UInt32.le_iff_toNat_le,
          WrappingClock.toNat_reading_sub after.1] at isLate
        have elapsed := Nat.mod_le (time first - since) (2 ^ 32)
        rcases List.mem_cons.mp isKept with rfl | isLater
        · omega
        · rw [stamped.1] at isLater
          have later :=
            inductionHypothesis stamped.2 ordered.2 ordered.1 item isLater
          omega
      · exact inductionHypothesis stamped.2 ordered.2 after.2 item isKept

/-- Items that pass are apart by the interval in true time. -/
theorem kept_apart
    {items : List Item}
    (stamped :
      ∀ item ∈ items, stamp item = WrappingClock.reading (time item))
    (ordered : items.Pairwise fun earlier later => time earlier ≤ time later)
    (last : Option UInt32) :
    (kept interval stamp last items).Pairwise fun earlier later =>
      time earlier + interval.toNat ≤ time later := by
  induction items generalizing last with
  | nil =>
      exact List.Pairwise.nil
  | cons item rest inductionHypothesis =>
      rw [List.forall_mem_cons] at stamped
      rw [List.pairwise_cons] at ordered
      unfold kept
      split
      · refine List.pairwise_cons.mpr
          ⟨?_, inductionHypothesis stamped.2 ordered.2 _⟩
        rw [stamped.1]
        exact le_of_mem_kept stamped.2 ordered.2 ordered.1
      · exact inductionHypothesis stamped.2 ordered.2 last

/-- Few items that are apart fit into a window. -/
theorem length_mul_le
    {items : List Item}
    {apart first last : Nat}
    (isApart :
      items.Pairwise fun earlier later => time earlier + apart ≤ time later)
    (inside : ∀ item ∈ items, first ≤ time item ∧ time item ≤ last) :
    items.length * apart ≤ last + apart - first := by
  induction items generalizing first with
  | nil =>
      rw [List.length_nil, Nat.zero_mul]
      exact Nat.zero_le _
  | cons item rest inductionHypothesis =>
      rw [List.pairwise_cons] at isApart
      have here := inside item List.mem_cons_self
      have behind :=
        @inductionHypothesis (time item + apart) isApart.2
          fun other isOther =>
            ⟨isApart.1 other isOther,
              (inside other (List.mem_cons_of_mem item isOther)).2⟩
      rw [List.length_cons, Nat.add_mul, Nat.one_mul]
      omega

/-- In any window of true time only so many items pass. -/
theorem length_window_mul_le
    {items : List Item}
    (stamped :
      ∀ item ∈ items, stamp item = WrappingClock.reading (time item))
    (ordered : items.Pairwise fun earlier later => time earlier ≤ time later)
    (last : Option UInt32)
    (first window : Nat) :
    ((kept interval stamp last items).filter fun item =>
        decide (first ≤ time item ∧ time item ≤ first + window)).length *
          interval.toNat ≤
      window + interval.toNat := by
  have isApart := @kept_apart _ interval _ _ _ stamped ordered last
  have bound :=
    @length_mul_le _ time _ interval.toNat first (first + window)
      (isApart.sublist List.filter_sublist) fun item isItem =>
        of_decide_eq_true (List.mem_filter.mp isItem).2
  omega

end

/-- Where the clock stands still, one item passes at most. -/
theorem length_le_one_of_constant
    (positive : interval ≠ 0)
    {items : List Item}
    {now : UInt32}
    (constant : ∀ item ∈ items, stamp item = now)
    (last : Option UInt32) :
    (kept interval stamp last items).length ≤ 1 := by
  have blocked :
      passes interval (some now) now = false := by
    refine decide_eq_false fun isLate => positive ?_
    rw [UInt32.sub_self] at isLate
    exact UInt32.toNat_inj.mp (Nat.le_zero.mp (UInt32.le_iff_toNat_le.mp isLate))
  have noneLater :
      ∀ others : List Item, (∀ item ∈ others, stamp item = now) →
        kept interval stamp (some now) others = [] := by
    intro others same
    induction others with
    | nil => rfl
    | cons item rest inductionHypothesis =>
        rw [List.forall_mem_cons] at same
        rw [kept, same.1, blocked]
        exact inductionHypothesis same.2
  induction items generalizing last with
  | nil =>
      exact Nat.zero_le 1
  | cons item rest inductionHypothesis =>
      rw [List.forall_mem_cons] at constant
      unfold kept
      split
      · rw [constant.1, noneLater rest constant.2]
        rfl
      · exact inductionHypothesis constant.2 last

end Throttle
