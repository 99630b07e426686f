import BacnetStack.EventRun
import Mathlib.Data.List.Nodup
import Mathlib.Logic.Function.Basic

namespace BacnetStack

/-!
# Scoped tags of the logger

A scope object pushes a tag where it is constructed and pops one where it is
destroyed.  A push may be refused, and the object does not remember that, so
its pop then takes the tag of another scope.
-/

abbrev kMaxTagLength : Nat := 96

/-- A text in front of its NUL, or the null pointer. -/
abbrev LogTag : Type := Option (List UInt8)

/-- The used part of the logger's `tagStack_`, the innermost tag first. -/
structure LogTagStack (kMaxTagDepth : Nat) where
  tags : List (List UInt8)
  bounded : tags.length ≤ kMaxTagDepth
  deriving DecidableEq

namespace LogTagStack

variable {kMaxTagDepth : Nat}

def empty : LogTagStack kMaxTagDepth :=
  ⟨[], Nat.zero_le kMaxTagDepth⟩

/-- The text of a tag as `copyText` stores it. -/
def storedText (text : List UInt8) : List UInt8 :=
  text.take (kMaxTagLength - 1)

/-- There is something to push, and room for it. -/
def Accepts
    (stack : LogTagStack kMaxTagDepth)
    (tag : LogTag) : Prop :=
  tag.getD [] ≠ [] ∧ stack.tags.length < kMaxTagDepth

instance
    (stack : LogTagStack kMaxTagDepth)
    (tag : LogTag) :
    Decidable (stack.Accepts tag) :=
  inferInstanceAs (Decidable (_ ∧ _))

def pushTag
    (stack : LogTagStack kMaxTagDepth)
    (tag : LogTag) : LogTagStack kMaxTagDepth :=
  if accepted : stack.Accepts tag then
    ⟨storedText (tag.getD []) :: stack.tags, accepted.2⟩
  else
    stack

def popTag (stack : LogTagStack kMaxTagDepth) : LogTagStack kMaxTagDepth :=
  ⟨stack.tags.tail, by
    rw [List.length_tail]
    exact Nat.sub_le_of_le_add (Nat.le_add_right_of_le stack.bounded)⟩

/-- A pop takes back exactly what was pushed, or finds nothing to take. -/
theorem popTag_pushTag_iff
    (stack : LogTagStack kMaxTagDepth)
    (tag : LogTag) :
    (stack.pushTag tag).popTag = stack ↔
      stack.Accepts tag ∨ stack.tags = [] := by
  obtain ⟨tags, bounded⟩ := stack
  unfold pushTag
  split
  · rename_i accepted
    exact iff_of_true rfl (.inl accepted)
  · rename_i refused
    rw [or_iff_right refused, popTag, LogTagStack.mk.injEq]
    cases tags with
    | nil => exact iff_of_true rfl rfl
    | cons first rest => exact iff_of_false List.ne_cons_self nofun

end LogTagStack

/-- A scope object of the application. -/
abbrev ScopeId : Type := Nat

/-- What happens to scope objects. -/
inductive ScopeEvent where
  | construct (scope : ScopeId) (tag : LogTag)
  | moveConstruct (scope other : ScopeId)
  | moveAssign (scope other : ScopeId)
  | destroy (scope : ScopeId)
  deriving Repr, DecidableEq

/-- The tags of a logger, and the scope objects that point to it. -/
structure ScopedLogTags (kMaxTagDepth : Nat) where
  stack : LogTagStack kMaxTagDepth := .empty
  logger : ScopeId → Bool := fun _ => false

namespace ScopedLogTags

variable {kMaxTagDepth : Nat}

/-- An object takes over the logger of another one. -/
def takeLogger
    (state : ScopedLogTags kMaxTagDepth)
    (scope other : ScopeId) : ScopedLogTags kMaxTagDepth :=
  { state with
    logger :=
      Function.update
        (Function.update state.logger scope (state.logger other))
        other false }

/-- An object with a logger pops a tag of it. -/
def popFor
    (state : ScopedLogTags kMaxTagDepth)
    (scope : ScopeId) : ScopedLogTags kMaxTagDepth :=
  if state.logger scope then
    { state with stack := state.stack.popTag }
  else
    state

/-- The constructors, the assignment and the destructor. -/
def step
    (state : ScopedLogTags kMaxTagDepth) :
    ScopeEvent → ScopedLogTags kMaxTagDepth
  | .construct scope tag =>
      { stack := state.stack.pushTag tag
        logger := Function.update state.logger scope true }
  | .moveConstruct scope other => state.takeLogger scope other
  | .moveAssign scope other =>
      if scope = other then state
      else (state.popFor scope).takeLogger scope other
  | .destroy scope =>
      { state.popFor scope with
        logger := Function.update state.logger scope false }

end ScopedLogTags

/-- A scope that has begun: its object, and what it found and pushed. -/
structure OpenScope (kMaxTagDepth : Nat) where
  owner : ScopeId
  before : LogTagStack kMaxTagDepth
  tag : LogTag

/-- Scope objects with the scopes that have begun, the innermost first. -/
structure NestedLogTags (kMaxTagDepth : Nat) where
  state : ScopedLogTags kMaxTagDepth := {}
  scopes : List (OpenScope kMaxTagDepth) := []

namespace NestedLogTags

variable {kMaxTagDepth : Nat}

/-- A scope belongs to another object. -/
def handOver
    (scope other : ScopeId)
    (scopes : List (OpenScope kMaxTagDepth)) :
    List (OpenScope kMaxTagDepth) :=
  scopes.map fun entry =>
    { entry with
      owner := if entry.owner = other then scope else entry.owner }

/-- The scope that ends with the hold of an object on its logger. -/
def endedBy?
    (nested : NestedLogTags kMaxTagDepth)
    (scope : ScopeId) : Option (OpenScope kMaxTagDepth) :=
  if nested.state.logger scope then nested.scopes.head? else none

/-- The scopes that are left then. -/
def scopesWithout
    (nested : NestedLogTags kMaxTagDepth)
    (scope : ScopeId) : List (OpenScope kMaxTagDepth) :=
  if nested.state.logger scope then nested.scopes.tail else nested.scopes

/-- The scope an event ends. -/
def ended?
    (nested : NestedLogTags kMaxTagDepth) :
    ScopeEvent → Option (OpenScope kMaxTagDepth)
  | .construct _ _ | .moveConstruct _ _ => none
  | .moveAssign scope other =>
      if scope = other then none else nested.endedBy? scope
  | .destroy scope => nested.endedBy? scope

def step
    (nested : NestedLogTags kMaxTagDepth)
    (event : ScopeEvent) : NestedLogTags kMaxTagDepth where
  state := nested.state.step event
  scopes :=
    match event with
    | .construct scope tag =>
        ⟨scope, nested.state.stack, tag⟩ :: nested.scopes
    | .moveConstruct scope other => handOver scope other nested.scopes
    | .moveAssign scope other =>
        if scope = other then nested.scopes
        else handOver scope other (nested.scopesWithout scope)
    | .destroy scope => nested.scopesWithout scope

/-- Only the innermost scope ends, and objects are new where they begin. -/
def ProperlyNested
    (nested : NestedLogTags kMaxTagDepth) : ScopeEvent → Prop
  | .construct scope _ => nested.state.logger scope = false
  | .moveConstruct scope other =>
      nested.state.logger scope = false ∧ scope ≠ other
  | .moveAssign scope other =>
      scope = other ∨
        ∀ entry ∈ nested.endedBy? scope, entry.owner = scope
  | .destroy scope =>
      ∀ entry ∈ nested.endedBy? scope, entry.owner = scope

instance
    (nested : NestedLogTags kMaxTagDepth)
    (event : ScopeEvent) :
    Decidable (nested.ProperlyNested event) :=
  match event with
  | .construct _ _ => inferInstanceAs (Decidable (_ = _))
  | .moveConstruct _ _ => inferInstanceAs (Decidable (_ ∧ _))
  | .moveAssign scope _ =>
      inferInstanceAs
        (Decidable (_ ∨ ∀ entry ∈ nested.endedBy? scope, _))
  | .destroy scope =>
      inferInstanceAs (Decidable (∀ entry ∈ nested.endedBy? scope, _))

/-- A scope that ends leaves the tags as it found them. -/
def Restores
    (nested : NestedLogTags kMaxTagDepth)
    (event : ScopeEvent) : Prop :=
  ∀ entry ∈ nested.ended? event,
    (nested.step event).state.stack = entry.before

/-- A scope that ends had its tag accepted, or found no tags at all. -/
def BeganWell
    (nested : NestedLogTags kMaxTagDepth)
    (event : ScopeEvent) : Prop :=
  ∀ entry ∈ nested.ended? event,
    entry.before.Accepts entry.tag ∨ entry.before.tags = []

section

variable {nested : NestedLogTags kMaxTagDepth}
  {entry : OpenScope kMaxTagDepth}

theorem mem_endedBy?_iff
    {scope : ScopeId} :
    entry ∈ nested.endedBy? scope ↔
      nested.state.logger scope = true ∧
        nested.scopes.head? = some entry := by
  unfold endedBy?
  split
  · rename_i holds
    exact (and_iff_right holds).symm
  · rename_i free
    exact iff_of_false nofun fun ⟨holds, _⟩ => free holds

/-- Only the innermost scope can end, and its end pops a tag. -/
theorem of_mem_ended?
    {event : ScopeEvent}
    (isEntry : entry ∈ nested.ended? event) :
    nested.scopes.head? = some entry ∧
      (nested.step event).state.stack = nested.state.stack.popTag := by
  cases event with
  | construct scope tag => exact nomatch isEntry
  | moveConstruct scope other => exact nomatch isEntry
  | moveAssign scope other =>
      dsimp only [ended?] at isEntry
      split at isEntry
      · exact nomatch isEntry
      · rename_i another
        obtain ⟨holds, isHead⟩ := mem_endedBy?_iff.mp isEntry
        refine ⟨isHead, ?_⟩
        dsimp only [step, ScopedLogTags.step]
        rw [if_neg another, ScopedLogTags.popFor, if_pos holds]
        rfl
  | destroy scope =>
      obtain ⟨holds, isHead⟩ := mem_endedBy?_iff.mp isEntry
      refine ⟨isHead, ?_⟩
      dsimp only [step, ScopedLogTags.step]
      rw [ScopedLogTags.popFor, if_pos holds]

end

/-- The tags are those the innermost scope found and its own. -/
def Stacked
    (stack : LogTagStack kMaxTagDepth) :
    List (OpenScope kMaxTagDepth) → Prop
  | [] => True
  | entry :: rest =>
      stack = entry.before.pushTag entry.tag ∧ Stacked entry.before rest

/-- Every scope belongs to one object, and the tags to the scopes. -/
structure Linked (nested : NestedLogTags kMaxTagDepth) : Prop where
  owners :
    ∀ scope,
      nested.state.logger scope = true ↔
        scope ∈ nested.scopes.map OpenScope.owner
  distinct : (nested.scopes.map OpenScope.owner).Nodup
  stacked : Stacked nested.state.stack nested.scopes

theorem stacked_handOver
    (scope other : ScopeId)
    {stack : LogTagStack kMaxTagDepth}
    {scopes : List (OpenScope kMaxTagDepth)}
    (stacked : Stacked stack scopes) :
    Stacked stack (handOver scope other scopes) := by
  induction scopes generalizing stack with
  | nil => trivial
  | cons entry rest inductionHypothesis =>
      exact ⟨stacked.1, inductionHypothesis stacked.2⟩

theorem owners_handOver
    (scope other : ScopeId)
    (scopes : List (OpenScope kMaxTagDepth)) :
    (handOver scope other scopes).map OpenScope.owner =
      (scopes.map OpenScope.owner).map fun owner =>
        if owner = other then scope else owner := by
  unfold handOver
  rw [List.map_map, List.map_map]
  rfl

namespace Linked

variable {nested : NestedLogTags kMaxTagDepth}

/-- An object without a scope takes over the one of another object. -/
theorem handOver
    (linked : nested.Linked)
    {scope other : ScopeId}
    (fresh : nested.state.logger scope = false)
    (another : scope ≠ other) :
    Linked
      { state := nested.state.takeLogger scope other
        scopes := NestedLogTags.handOver scope other nested.scopes } := by
  have notOwner : scope ∉ nested.scopes.map OpenScope.owner := by
    intro isOwner
    rw [(linked.owners scope).mpr isOwner] at fresh
    exact nomatch fresh
  refine ⟨fun object => ?_, ?_, stacked_handOver scope other linked.stacked⟩
  · dsimp only [ScopedLogTags.takeLogger]
    rw [owners_handOver, List.mem_map]
    by_cases isOther : object = other
    · subst isOther
      rw [Function.update_self]
      refine iff_of_false nofun ?_
      rintro ⟨owner, -, isObject⟩
      split at isObject
      · exact another isObject
      · contradiction
    · rw [Function.update_of_ne isOther]
      by_cases isScope : object = scope
      · subst isScope
        rw [Function.update_self, linked.owners other]
        constructor
        · intro isOwner
          exact ⟨other, isOwner, if_pos rfl⟩
        · rintro ⟨owner, isOwner, isObject⟩
          split at isObject
          · rename_i same
            exact same ▸ isOwner
          · exact absurd (isObject ▸ isOwner) notOwner
      · rw [Function.update_of_ne isScope, linked.owners object]
        constructor
        · intro isOwner
          exact ⟨object, isOwner, if_neg isOther⟩
        · rintro ⟨owner, isOwner, isObject⟩
          split at isObject
          · exact absurd isObject.symm isScope
          · exact isObject ▸ isOwner
  · rw [owners_handOver]
    refine List.Nodup.map_on
      (fun first isFirst second isSecond same => ?_) linked.distinct
    split at same <;> split at same
    · rename_i firstOther secondOther
      exact firstOther.trans secondOther.symm
    · exact absurd (same ▸ isSecond) notOwner
    · exact absurd (same ▸ isFirst) notOwner
    · exact same

/-- The innermost scope ends and leaves the tags as it found them. -/
theorem release
    (linked : nested.Linked)
    {scope : ScopeId}
    (innermost : ∀ entry ∈ nested.endedBy? scope, entry.owner = scope)
    (restores :
      ∀ entry ∈ nested.endedBy? scope,
        nested.state.stack.popTag = entry.before) :
    Linked
      { state :=
          { nested.state.popFor scope with
            logger := Function.update nested.state.logger scope false }
        scopes := nested.scopesWithout scope } := by
  unfold endedBy? at innermost restores
  unfold ScopedLogTags.popFor scopesWithout
  cases holds : nested.state.logger scope with
  | false =>
      have unchanged :
          Function.update nested.state.logger scope false =
            nested.state.logger :=
        holds ▸ Function.update_eq_self scope nested.state.logger
      rw [unchanged]
      exact linked
  | true =>
      rw [holds] at innermost restores
      obtain ⟨owners, distinct, stacked⟩ := linked
      have isOwner := (owners scope).mp holds
      cases shape : nested.scopes with
      | nil =>
          rw [shape] at isOwner
          exact nomatch isOwner
      | cons entry rest =>
          rw [shape] at innermost restores owners distinct stacked
          obtain rfl : entry.owner = scope := innermost entry rfl
          rw [List.map_cons, List.nodup_cons] at distinct
          rw [if_pos rfl, if_pos rfl, List.tail_cons]
          refine ⟨fun object => ?_, distinct.2, ?_⟩
          · dsimp only
            by_cases isObject : object = entry.owner
            · subst isObject
              rw [Function.update_self]
              exact iff_of_false nofun distinct.1
            · rw [Function.update_of_ne isObject, owners object,
                List.map_cons, List.mem_cons, or_iff_right isObject]
          · have isBefore := restores entry rfl
            dsimp only
            rw [isBefore]
            exact stacked.2

/-- Scopes that restore the tags keep everything linked. -/
theorem step
    (linked : nested.Linked)
    {event : ScopeEvent}
    (proper : nested.ProperlyNested event)
    (restores : nested.Restores event) :
    (nested.step event).Linked := by
  cases event with
  | construct scope tag =>
      refine ⟨fun object => ?_, ?_, rfl, linked.stacked⟩
      · dsimp only [NestedLogTags.step, ScopedLogTags.step]
        rw [List.map_cons, List.mem_cons]
        by_cases isScope : object = scope
        · subst isScope
          rw [Function.update_self]
          exact iff_of_true rfl (.inl rfl)
        · rw [Function.update_of_ne isScope, linked.owners object,
            or_iff_right isScope]
      · refine List.nodup_cons.mpr ⟨fun isOwner => ?_, linked.distinct⟩
        have fresh : nested.state.logger scope = false := proper
        rw [(linked.owners scope).mpr isOwner] at fresh
        exact nomatch fresh
  | moveConstruct scope other => exact linked.handOver proper.1 proper.2
  | moveAssign scope other =>
      by_cases same : scope = other
      · have unchanged : nested.step (.moveAssign scope other) = nested := by
          dsimp only [NestedLogTags.step, ScopedLogTags.step]
          rw [if_pos same, if_pos same]
        rwa [unchanged]
      · have ends :
            nested.ended? (.moveAssign scope other) =
              nested.endedBy? scope := if_neg same
        have released := linked.release (proper.resolve_left same)
          fun entry isEntry => by
            rw [← ends] at isEntry
            exact (of_mem_ended? isEntry).2.symm.trans
              (restores entry isEntry)
        have taken := released.handOver
          (Function.update_self scope false nested.state.logger) same
        have sameLogger :
            Function.update
                (Function.update (nested.state.popFor scope).logger scope
                  ((nested.state.popFor scope).logger other)) other false =
              Function.update
                (Function.update
                  (Function.update nested.state.logger scope false) scope
                  (Function.update nested.state.logger scope false other))
                other false := by
          rw [Function.update_of_ne (Ne.symm same), Function.update_idem]
          unfold ScopedLogTags.popFor
          split <;> rfl
        dsimp only [NestedLogTags.step, ScopedLogTags.step]
        rw [if_neg same, if_neg same, ScopedLogTags.takeLogger, sameLogger]
        exact taken
  | destroy scope =>
      refine linked.release proper fun entry isEntry => ?_
      exact (of_mem_ended? isEntry).2.symm.trans (restores entry isEntry)

/-- A scope restores the tags exactly where it began well. -/
theorem restores_iff
    (linked : nested.Linked)
    (event : ScopeEvent) :
    nested.Restores event ↔ nested.BeganWell event := by
  refine forall₂_congr fun entry isEntry => ?_
  obtain ⟨isHead, popped⟩ := of_mem_ended? isEntry
  have stacked := linked.stacked
  rw [List.eq_cons_of_mem_head? isHead] at stacked
  rw [popped, stacked.1]
  exact entry.before.popTag_pushTag_iff entry.tag

end Linked

/-- A logger that has pushed some tags before, and no scopes. -/
def unscoped (stack : LogTagStack kMaxTagDepth) :
    NestedLogTags kMaxTagDepth where
  state := { stack := stack }

/--
In a properly nested run every scope that ends restores the tags exactly
where every one of them began with a tag that was accepted, or without tags.
-/
theorem scopes_restore_iff
    (stack : LogTagStack kMaxTagDepth)
    {events : List ScopeEvent}
    (proper : EventRun.Along step ProperlyNested (unscoped stack) events) :
    EventRun.Along step Restores (unscoped stack) events ↔
      EventRun.Along step BeganWell (unscoped stack) events := by
  have linked : (unscoped stack).Linked :=
    ⟨fun _ => iff_of_false nofun List.not_mem_nil, List.nodup_nil, trivial⟩
  have both :
      EventRun.Along step
          (fun nested event =>
            nested.ProperlyNested event ∧ nested.Restores event)
          (unscoped stack) events ↔
        EventRun.Along step
          (fun nested event =>
            nested.ProperlyNested event ∧ nested.BeganWell event)
          (unscoped stack) events :=
    EventRun.along_iff_of_invariant Linked
      (fun nested event linked =>
        and_congr_right' (linked.restores_iff event))
      (fun nested event admissible linked =>
        linked.step admissible.1 admissible.2) linked
  rw [EventRun.along_and, EventRun.along_and, and_iff_right proper,
    and_iff_right proper] at both
  exact both

/-- A scope in a scope, which a second object takes over. -/
def movedScopes : List ScopeEvent :=
  [.construct 0 (some [65]), .construct 1 (some [66]), .moveConstruct 2 1,
    .destroy 1, .destroy 2, .destroy 0]

theorem scopes_restore_iff_moved :
    EventRun.Along step Restores
        (unscoped (.empty : LogTagStack 4)) movedScopes ↔
      EventRun.Along step BeganWell
        (unscoped (.empty : LogTagStack 4)) movedScopes :=
  scopes_restore_iff .empty
    ⟨rfl, rfl, ⟨rfl, by decide⟩, nofun, by decide, by decide, trivial⟩

/-- A scope with an empty tag ends the scope around it. -/
theorem not_scopes_restore :
    ¬∀ events : List ScopeEvent,
      EventRun.Along step ProperlyNested
          (unscoped (.empty : LogTagStack 4)) events →
        EventRun.Along step Restores
          (unscoped (.empty : LogTagStack 4)) events := by
  intro always
  have restores :=
    always [.construct 0 (some [65]), .construct 1 (some []), .destroy 1]
      ⟨rfl, rfl, by decide, trivial⟩
  exact absurd (restores.2.2.1 _ rfl) (by decide)

end NestedLogTags

end BacnetStack
