import BacnetStack.EventRun
import BacnetStack.ServerWriteProperty

namespace BacnetStack

open EventRun

/-!
# Calls out of a commandable object

An operation on a commandable object changes it and then calls the apply hook
and the change callbacks, one after another.  Each of them is application
code that may attempt further operations before it returns.  The operations
under way are frames on a stack, and a step of this machine is an attempt of
the application, the next call of the innermost operation, or the return of
the innermost call; what the application does with other objects meanwhile is
part of the application.
-/

/-- What is done to a commandable object, with the source's arguments. -/
inductive CommandOperation (α : Type) where
  | applyPriorityValue
      (value : α)
      (priorityValue : UInt8)
      (relinquish : Bool)
      (origin : BacnetChangeOrigin)
  | setRelinquishDefaultValue
      (value : α)
      (origin : BacnetChangeOrigin)
  | writeOutOfService
      (outOfService : Bool)

/-- A call made when its turn comes, with the object as it is by then. -/
abbrev PendingCall (α : Type) : Type :=
  CommandTarget α → Option (CommandEvent α)

/--
An operation that changed the object.  `guarded` tells that it holds
`callbackInProgress`, `calling` that one of its calls has not returned.
-/
structure CommandFrame (α : Type) where
  guarded : Bool
  pending : List (PendingCall α)
  calling : Bool := false

/-- An object with the operations under way, innermost first. -/
structure CommandSession (α : Type) where
  target : CommandTarget α
  frames : List (CommandFrame α) := []
  events : List (CommandEvent α) := []

/-- One step of the application or of an operation. -/
inductive CommandAction (α : Type) where
  | attempt (operation : CommandOperation α)
  | proceed
  | callbackReturns

section Operations

variable {α : Type} (differs : α → α → Bool)

/-- The calls of `applyPriorityValue` once the slot is written. -/
def priorityValueCalls
    (old : CommandTarget α)
    (written : BacnetCommandPriority α)
    (index : Fin kSlotCount)
    (priorityValue : UInt8)
    (relinquish : Bool)
    (origin : BacnetChangeOrigin) : List (PendingCall α) :=
  let oldOccupied := old.priority.occupied index
  let oldSlotValue := old.priority.slots index
  let oldEffectiveValue := old.priority.effectiveValue
  let oldEffectivePriority := old.priority.effectivePriority
  let newEffectiveValue := written.effectiveValue
  let newEffectivePriority := written.effectivePriority
  let slotChanged :=
    oldOccupied != written.occupied index ||
      (oldOccupied && written.occupied index &&
        differs oldSlotValue (written.slots index))
  let valueChanged := differs oldEffectiveValue newEffectiveValue
  [fun target =>
      if target.hasApply && valueChanged then
        some (.apply newEffectiveValue target.outOfService)
      else none,
    fun target =>
      target.callbackStorage.bind fun storage =>
        if slotChanged && storage.priorityValueChange index then
          some (.priorityValueChange target.object priorityValue
            oldOccupied oldSlotValue
            (target.priority.occupied index) (target.priority.slots index)
            origin)
        else none,
    fun target =>
      target.callbackStorage.bind fun storage =>
        if oldEffectivePriority != newEffectivePriority &&
            storage.effectivePriorityChange then
          some (.effectivePriorityChange target.object
            oldEffectivePriority newEffectivePriority
            oldEffectiveValue newEffectiveValue origin)
        else none,
    fun target =>
      target.callbackStorage.bind fun storage =>
        if valueChanged && storage.presentValueChange then
          some (.presentValueChange target.object
            oldEffectiveValue newEffectiveValue origin)
        else none,
    fun target =>
      target.callbackStorage.bind fun storage =>
        if relinquish && storage.relinquishChange then
          some (.relinquishChange target.object priorityValue
            oldEffectiveValue newEffectiveValue newEffectivePriority
            (newEffectivePriority == 0) origin)
        else none]

/-- The calls of `setRelinquishDefaultValue` once the default is set. -/
def relinquishDefaultCalls
    (old : CommandTarget α)
    (written : BacnetCommandPriority α)
    (origin : BacnetChangeOrigin) : List (PendingCall α) :=
  let oldEffectiveValue := old.priority.effectiveValue
  let newEffectiveValue := written.effectiveValue
  let valueChanged := differs oldEffectiveValue newEffectiveValue
  [fun target =>
      if target.hasApply && valueChanged then
        some (.apply newEffectiveValue target.outOfService)
      else none,
    fun target =>
      target.callbackStorage.bind fun storage =>
        if valueChanged && storage.presentValueChange then
          some (.presentValueChange target.object
            oldEffectiveValue newEffectiveValue origin)
        else none]

/-- The call of an Out_Of_Service write. -/
def outOfServiceCalls : List (PendingCall α) :=
  [fun target =>
    if target.hasApply then
      some (.apply target.priority.effectiveValue target.outOfService)
    else none]

namespace CommandSession

variable (session : CommandSession α)

/-- Begin an operation; `none` stands for the refused call. -/
def begin_ : CommandOperation α → Option (CommandSession α)
  | .applyPriorityValue value priorityValue relinquish origin =>
      if session.target.callbackInProgress then
        none
      else
        (BacnetCommandPriority.slotIndex? priorityValue).map fun index =>
          let written :=
            session.target.priority.writeSlot index relinquish value
          { session with
            target :=
              { session.target with
                priority := written
                callbackInProgress := true }
            frames :=
              { guarded := true
                pending :=
                  priorityValueCalls differs session.target written index
                    priorityValue relinquish origin } :: session.frames }
  | .setRelinquishDefaultValue value origin =>
      if session.target.callbackInProgress then
        none
      else
        let written :=
          { session.target.priority with relinquishDefault := value }
        some { session with
          target :=
            { session.target with
              priority := written
              callbackInProgress := true }
          frames :=
            { guarded := true
              pending :=
                relinquishDefaultCalls differs session.target written
                  origin } :: session.frames }
  | .writeOutOfService outOfService =>
      -- The source takes no guard on this path.
      some { session with
        target := { session.target with outOfService := outOfService }
        frames :=
          { guarded := false
            pending := outOfServiceCalls } :: session.frames }

/--
Application code runs outside of all operations or inside the innermost call.
Out_Of_Service is written by the server's poll, outside of all operations.
-/
def mayAttempt : CommandOperation α → Bool
  | .writeOutOfService _ => session.frames.isEmpty
  | _ => session.frames.head?.all CommandFrame.calling

/-- The innermost operation makes its next call or returns. -/
def proceed : CommandSession α :=
  match session.frames with
  | [] => session
  | frame :: outer =>
      if frame.calling then
        session
      else
        match frame.pending with
        | [] =>
            { session with
              target :=
                if frame.guarded then
                  { session.target with callbackInProgress := false }
                else
                  session.target
              frames := outer }
        | call :: rest =>
            match call session.target with
            | none =>
                { session with
                  frames := { frame with pending := rest } :: outer }
            | some event =>
                { session with
                  frames :=
                    { frame with
                      pending := rest
                      calling := true } :: outer
                  events := session.events ++ [event] }

/-- The innermost call returns. -/
def callbackReturns : CommandSession α :=
  match session.frames with
  | [] => session
  | frame :: outer =>
      { session with frames := { frame with calling := false } :: outer }

/-- One step; an attempt that is refused changes nothing. -/
def step (session : CommandSession α) :
    CommandAction α → CommandSession α
  | .attempt operation =>
      if session.mayAttempt operation then
        (session.begin_ differs operation).getD session
      else
        session
  | .proceed => session.proceed
  | .callbackReturns => session.callbackReturns

/-- An object nothing is being done to. -/
def idle (target : CommandTarget α) : CommandSession α :=
  { target := target }

/-- Nothing is under way, or one operation with its guard. -/
def Exclusive : Prop :=
  (session.frames = [] ∧ session.target.callbackInProgress = false) ∨
    ∃ frame,
      session.frames = [frame] ∧
        session.target.callbackInProgress = frame.guarded

/-- The apply hook of an Out_Of_Service write has not returned. -/
def inOutOfServiceHook : Bool :=
  session.frames.head?.any fun frame => frame.calling && !frame.guarded

/--
No call starts beside another one, and an attempt inside a call is refused
and leaves everything as it was.
-/
structure StepExcludes (action : CommandAction α) : Prop where
  oneCall :
    (session.step differs action).frames.countP CommandFrame.calling ≤ 1
  refused :
    ∀ operation,
      action = .attempt operation →
      session.mayAttempt operation = true →
      session.frames ≠ [] →
      session.begin_ differs operation = none ∧
        session.step differs action = session

end CommandSession

/-- The operation is a command with valid arguments. -/
def CommandOperation.isCommand : CommandOperation α → Bool
  | .applyPriorityValue _ priorityValue _ _ =>
      (BacnetCommandPriority.slotIndex? priorityValue).isSome
  | .setRelinquishDefaultValue _ _ => true
  | .writeOutOfService _ => false

namespace CommandSession

/-- No command is given by the apply hook of an Out_Of_Service write. -/
def HookGivesNoCommand
    (session : CommandSession α)
    (action : CommandAction α) : Prop :=
  ∀ operation,
    action = .attempt operation →
    session.inOutOfServiceHook = true →
    operation.isCommand = false

variable {differs : α → α → Bool} {session : CommandSession α}

/-- A begun operation is one more frame; a command has the guard. -/
theorem begin_frames
    {operation : CommandOperation α}
    {next : CommandSession α}
    (begun : session.begin_ differs operation = some next) :
    ∃ frame,
      next.frames = frame :: session.frames ∧
        (session.target.callbackInProgress = false →
          next.target.callbackInProgress = frame.guarded) ∧
        (frame.guarded = true ∨
          ∃ outOfService, operation = .writeOutOfService outOfService) := by
  cases operation with
  | applyPriorityValue value priorityValue relinquish origin =>
      simp only [begin_, Option.ite_none_left_eq_some,
        Option.map_eq_some_iff] at begun
      obtain ⟨_, index, _, rfl⟩ := begun
      exact ⟨_, rfl, fun _ => rfl, .inl rfl⟩
  | setRelinquishDefaultValue value origin =>
      simp only [begin_, Option.ite_none_left_eq_some,
        Option.some.injEq] at begun
      obtain ⟨_, rfl⟩ := begun
      exact ⟨_, rfl, fun _ => rfl, .inl rfl⟩
  | writeOutOfService outOfService =>
      simp only [begin_, Option.some.injEq] at begun
      subst begun
      exact ⟨_, rfl, id, .inr ⟨outOfService, rfl⟩⟩

/-- A guarded object refuses every operation of the application. -/
theorem begin_guarded
    (guarded : session.target.callbackInProgress = true)
    {operation : CommandOperation α}
    (mayAttempt : session.mayAttempt operation = true)
    (underWay : session.frames ≠ []) :
    session.begin_ differs operation = none := by
  cases operation with
  | applyPriorityValue value priorityValue relinquish origin =>
      rw [begin_, if_pos guarded]
  | setRelinquishDefaultValue value origin =>
      rw [begin_, if_pos guarded]
  | writeOutOfService outOfService =>
      exact (underWay (List.isEmpty_iff.mp mayAttempt)).elim

/-- Without the guard, commands are accepted and other attempts are not. -/
theorem begin_unguarded
    (unguarded : session.target.callbackInProgress = false)
    {operation : CommandOperation α}
    (mayAttempt : session.mayAttempt operation = true)
    (underWay : session.frames ≠ []) :
    session.begin_ differs operation = none ↔
      operation.isCommand = false := by
  have notGuarded : ¬session.target.callbackInProgress = true := by
    rw [unguarded]
    exact Bool.false_ne_true
  cases operation with
  | applyPriorityValue value priorityValue relinquish origin =>
      rw [begin_, if_neg notGuarded, CommandOperation.isCommand]
      simp
  | setRelinquishDefaultValue value origin =>
      rw [begin_, if_neg notGuarded, CommandOperation.isCommand]
      simp
  | writeOutOfService outOfService =>
      exact (underWay (List.isEmpty_iff.mp mayAttempt)).elim

/-- An attempt that is refused or out of turn is no step. -/
theorem step_refused
    {operation : CommandOperation α}
    (refused :
      session.mayAttempt operation = true →
        session.begin_ differs operation = none) :
    session.step differs (.attempt operation) = session := by
  rw [step]
  split
  · rename_i mayAttempt
    rw [refused mayAttempt]
    rfl
  · rfl

/-- The innermost operation keeps its frame or returns its guard. -/
theorem Exclusive.proceed
    (exclusive : session.Exclusive) :
    session.proceed.Exclusive := by
  rcases exclusive with ⟨none, unguarded⟩ | ⟨frame, one, guard⟩
  · rw [CommandSession.proceed, none]
    exact .inl ⟨none, unguarded⟩
  · rw [CommandSession.proceed, one]
    dsimp only
    split
    · exact .inr ⟨frame, one, guard⟩
    · split
      · refine .inl ⟨rfl, ?_⟩
        cases guarded : frame.guarded with
        | false =>
            rw [guarded] at guard
            exact guard
        | true => rfl
      · split
        · exact .inr ⟨_, rfl, guard⟩
        · exact .inr ⟨_, rfl, guard⟩

theorem Exclusive.callbackReturns
    (exclusive : session.Exclusive) :
    session.callbackReturns.Exclusive := by
  rcases exclusive with ⟨none, unguarded⟩ | ⟨frame, one, guard⟩
  · rw [CommandSession.callbackReturns, none]
    exact .inl ⟨none, unguarded⟩
  · rw [CommandSession.callbackReturns, one]
    exact .inr ⟨_, rfl, guard⟩

/-- One frame makes at most one call. -/
theorem Exclusive.oneCall
    (exclusive : session.Exclusive) :
    session.frames.countP CommandFrame.calling ≤ 1 := by
  rcases exclusive with ⟨none, _⟩ | ⟨frame, one, _⟩
  · simp [none]
  · rw [one]
    exact List.countP_le_length

/-- Attempts that are refused inside calls leave one operation at most. -/
theorem Exclusive.step
    (exclusive : session.Exclusive)
    {action : CommandAction α}
    (refused :
      ∀ operation,
        action = .attempt operation →
        session.mayAttempt operation = true →
        session.frames ≠ [] →
        session.begin_ differs operation = none) :
    (session.step differs action).Exclusive := by
  cases action with
  | attempt operation =>
      by_cases underWay : session.frames = []
      · rw [CommandSession.step]
        split
        · cases begun : session.begin_ differs operation with
          | none => exact exclusive
          | some next =>
              obtain ⟨frame, frames, guard, _⟩ := begin_frames begun
              rcases exclusive with ⟨_, unguarded⟩ | ⟨other, one, _⟩
              · rw [underWay] at frames
                exact .inr ⟨frame, frames, guard unguarded⟩
              · rw [underWay] at one
                cases one
        · exact exclusive
      · rw [step_refused fun mayAttempt =>
          refused operation rfl mayAttempt underWay]
        exact exclusive
  | proceed => exact exclusive.proceed
  | callbackReturns => exact exclusive.callbackReturns

/-- Inside a call, the guard or the hook's restraint refuses an attempt. -/
theorem HookGivesNoCommand.refused
    {action : CommandAction α}
    (noCommand : session.HookGivesNoCommand action)
    (exclusive : session.Exclusive)
    {operation : CommandOperation α}
    (attempted : action = .attempt operation)
    (mayAttempt : session.mayAttempt operation = true)
    (underWay : session.frames ≠ []) :
    session.begin_ differs operation = none := by
  rcases exclusive with ⟨none, _⟩ | ⟨frame, one, guard⟩
  · exact (underWay none).elim
  · cases guarded : frame.guarded with
    | true => exact begin_guarded (guard.trans guarded) mayAttempt underWay
    | false =>
        rw [begin_unguarded (guard.trans guarded) mayAttempt underWay]
        by_cases calling : frame.calling = true
        · apply noCommand operation attempted
          simp [inOutOfServiceHook, one, calling, guarded]
        · cases operation with
          | writeOutOfService outOfService => rfl
          | applyPriorityValue value priorityValue relinquish origin =>
              simp [CommandSession.mayAttempt, one, calling] at mayAttempt
          | setRelinquishDefaultValue value origin =>
              simp [CommandSession.mayAttempt, one, calling] at mayAttempt

/-- A step excludes others unless an unguarded hook gives a command. -/
theorem stepExcludes_iff
    (exclusive : session.Exclusive)
    (action : CommandAction α) :
    session.StepExcludes differs action ↔
      session.HookGivesNoCommand action := by
  constructor
  · rintro excludes operation rfl inHook
    rcases exclusive with ⟨none, _⟩ | ⟨frame, one, guard⟩
    · simp [inOutOfServiceHook, none] at inHook
    · simp only [inOutOfServiceHook, one, List.head?_cons,
        Option.any_some, Bool.and_eq_true, Bool.not_eq_true'] at inHook
      have underWay : session.frames ≠ [] := by
        rw [one]
        exact List.cons_ne_nil _ _
      by_cases mayAttempt : session.mayAttempt operation = true
      · exact (begin_unguarded (guard.trans inHook.2) mayAttempt
          underWay).mp (excludes.refused operation rfl mayAttempt underWay).1
      · cases operation with
        | writeOutOfService outOfService => rfl
        | applyPriorityValue value priorityValue relinquish origin =>
            simp [CommandSession.mayAttempt, one, inHook.1] at mayAttempt
        | setRelinquishDefaultValue value origin =>
            simp [CommandSession.mayAttempt, one, inHook.1] at mayAttempt
  · intro noCommand
    constructor
    · exact (exclusive.step fun _ => noCommand.refused exclusive).oneCall
    · intro operation attempted mayAttempt underWay
      have refused :=
        @HookGivesNoCommand.refused _ differs _ _ noCommand exclusive
          _ attempted mayAttempt underWay
      rw [attempted]
      exact ⟨refused, step_refused fun _ => refused⟩

/--
Along any run, calls exclude one another and attempts inside a call come to
nothing, exactly when no apply hook gives a command during an Out_Of_Service
write.
-/
theorem callbacks_exclude_iff
    (differs : α → α → Bool)
    (target : CommandTarget α)
    (unguarded : target.callbackInProgress = false)
    (actions : List (CommandAction α)) :
    Along (step differs) (StepExcludes differs) (idle target) actions ↔
      Along (step differs) HookGivesNoCommand (idle target) actions := by
  refine along_iff_of_invariant Exclusive
    (fun _ action exclusive => stepExcludes_iff exclusive action) ?_
    (.inl ⟨rfl, unguarded⟩)
  intro session action excludes exclusive
  exact exclusive.step fun operation attempted mayAttempt underWay =>
    (excludes.refused operation attempted mayAttempt underWay).1

end CommandSession

end Operations

/-- A Binary Output with an apply hook. -/
def hookedOutput : BacnetServerBinaryOutput :=
  { instance_ := 1
    objectName := [66]
    hasApply := true }

/-- A WriteProperty request for its Out_Of_Service. -/
def hookedOutputRequest : BacnetWritePropertyRequestHeader :=
  { invokeId := 7
    request :=
      { object := hookedOutput.objectId
        property := .outOfService }
    value := { type := .boolean, booleanValue := true } }

/-- The hook of the write commands priority 8, which calls the hook again. -/
def commandInHook : List (CommandAction Bool) :=
  [.attempt (.writeOutOfService true), .proceed,
    .attempt (.applyPriorityValue true 8 false .local), .proceed]

/--
A remote write of Out_Of_Service calls the hook without the guard: a command
the hook gives is accepted, and the hook runs inside itself.
-/
theorem hookCommand_not_excluded :
    (({ binaryOutputs := [hookedOutput] } : ServerObjects).writeProperty
        hookedOutputRequest).map WriteEffect.calls =
      .ok [.binary hookedOutput.objectId (.apply false true)] ∧
    (run (CommandSession.step binaryDiffers)
        (CommandSession.idle hookedOutput.commandTarget)
        commandInHook).target.priority.effectiveValue = true ∧
    (run (CommandSession.step binaryDiffers)
        (CommandSession.idle hookedOutput.commandTarget)
        commandInHook).events =
      [.apply false true, .apply true true] ∧
    ¬Along (CommandSession.step binaryDiffers)
        (CommandSession.StepExcludes binaryDiffers)
        (CommandSession.idle hookedOutput.commandTarget)
        commandInHook := by
  refine ⟨rfl, rfl, rfl, ?_⟩
  rintro ⟨_, _, excludes, _⟩
  have refused := excludes.refused _ rfl rfl (List.cons_ne_nil _ _)
  cases refused.1

/-- The same run with a hook that only watches. -/
theorem watchingHook_excluded :
    Along (CommandSession.step binaryDiffers)
        (CommandSession.StepExcludes binaryDiffers)
        (CommandSession.idle hookedOutput.commandTarget)
        [.attempt (.writeOutOfService true), .proceed,
          .callbackReturns, .proceed] ↔
      Along (CommandSession.step binaryDiffers)
        CommandSession.HookGivesNoCommand
        (CommandSession.idle hookedOutput.commandTarget)
        [.attempt (.writeOutOfService true), .proceed,
          .callbackReturns, .proceed] :=
  CommandSession.callbacks_exclude_iff binaryDiffers
    hookedOutput.commandTarget rfl _

end BacnetStack
