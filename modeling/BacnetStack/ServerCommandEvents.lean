import BacnetStack.ChangeHistory
import BacnetStack.ServerCommandCalls

namespace BacnetStack

open EventRun ChangeHistory

/-!
# What the change callbacks report

A session under commands does what the writes of the model do at once, with
the calls still to come added to those already made.  From there the reported
changes of the present value form a chain, and the reported slots reproduce
the slots.
-/

section Commands

variable {α : Type} {differs : α → α → Bool}

/-- A command on an object whose calls all happen at once. -/
def CommandOperation.perform
    (differs : α → α → Bool)
    (target : CommandTarget α) :
    CommandOperation α → Option (CommandWriteResult α)
  | .applyPriorityValue value priorityValue relinquish origin =>
      applyCommandPriorityValue differs target value priorityValue
        relinquish origin
  | .setRelinquishDefaultValue value origin =>
      setCommandRelinquishDefault differs target value origin
  | .writeOutOfService _ => none

/-- The calls a frame has yet to make. -/
def CommandFrame.remaining
    (frame : CommandFrame α)
    (target : CommandTarget α) : List (CommandEvent α) :=
  frame.pending.filterMap fun call => call target

/-- An object and the calls made for it. -/
structure CommandHistory (α : Type) where
  target : CommandTarget α
  events : List (CommandEvent α)

/-- A command that is accepted changes the slots and adds its calls. -/
def CommandHistory.step
    (differs : α → α → Bool)
    (history : CommandHistory α)
    (operation : CommandOperation α) : CommandHistory α :=
  match operation.perform differs history.target with
  | some written =>
      { target := { history.target with priority := written.priority }
        events := history.events ++ written.events }
  | none => history

/-- The session as if its operations had returned. -/
def CommandSession.history (session : CommandSession α) : CommandHistory α :=
  { target := { session.target with callbackInProgress := false }
    events :=
      session.events ++
        session.frames.flatMap fun frame => frame.remaining session.target }

/-- Calls are made one after another. -/
theorem filterMap_calls
    (target : CommandTarget α)
    (call : PendingCall α)
    (rest : List (PendingCall α)) :
    ((call :: rest).filterMap fun call => call target) =
      (call target).toList ++ rest.filterMap fun call => call target := by
  cases made : call target <;> simp [made]

theorem toList_ite
    (condition : Prop)
    [Decidable condition]
    (event : CommandEvent α) :
    (if condition then some event else none).toList =
      if condition then [event] else [] := by
  split <;> rfl

/-- The calls of a priority write are those the model makes at once. -/
theorem priorityValueCalls_remaining
    (target : CommandTarget α)
    (index : Fin kSlotCount)
    (value : α)
    (priorityValue : UInt8)
    (relinquish : Bool)
    (origin : BacnetChangeOrigin) :
    let written := target.priority.writeSlot index relinquish value
    ((priorityValueCalls differs target written index priorityValue
        relinquish origin).filterMap fun call =>
      call { target with
        priority := written
        callbackInProgress := true }) =
      (if target.hasApply &&
          differs target.priority.effectiveValue
            written.effectiveValue then
        [.apply written.effectiveValue target.outOfService]
      else []) ++
      (match target.callbackStorage with
      | none => []
      | some storage =>
          priorityWriteCallbacks differs target index priorityValue
            relinquish origin written storage) := by
  intro written
  simp only [priorityValueCalls, priorityWriteCallbacks, filterMap_calls,
    toList_ite, List.filterMap_nil]
  cases target.callbackStorage with
  | none => simp
  | some storage =>
      simp only [Option.bind_some, toList_ite, List.append_nil,
        List.append_assoc]

/-- The same for a change of the default. -/
theorem relinquishDefaultCalls_remaining
    (target : CommandTarget α)
    (written : BacnetCommandPriority α)
    (origin : BacnetChangeOrigin) :
    ((relinquishDefaultCalls differs target written origin).filterMap
        fun call =>
      call { target with
        priority := written
        callbackInProgress := true }) =
      (if target.hasApply &&
          differs target.priority.effectiveValue
            written.effectiveValue then
        [.apply written.effectiveValue target.outOfService]
      else []) ++
      (match target.callbackStorage with
      | none => []
      | some storage =>
          if differs target.priority.effectiveValue
              written.effectiveValue && storage.presentValueChange then
            [.presentValueChange target.object
              target.priority.effectiveValue written.effectiveValue origin]
          else []) := by
  simp only [relinquishDefaultCalls, filterMap_calls, toList_ite,
    List.filterMap_nil]
  cases target.callbackStorage with
  | none => simp
  | some storage =>
      simp only [Option.bind_some, toList_ite, List.append_nil]

namespace CommandSession

variable {session : CommandSession α}

/-- The history of an idle object is what happened. -/
theorem history_idle
    (none : session.frames = [])
    (unguarded : session.target.callbackInProgress = false) :
    session.history = ⟨session.target, session.events⟩ := by
  obtain ⟨⟨object, priority, guard, storage, hasApply, outOfService⟩,
    frames, events⟩ := session
  obtain rfl : frames = [] := none
  obtain rfl : guard = false := unguarded
  simp [history]

/-- A command of an idle object begins with the effect it has at once. -/
theorem begin_perform
    (none : session.frames = [])
    (unguarded : session.target.callbackInProgress = false)
    {operation : CommandOperation α}
    (isCommand : ∀ outOfService, operation ≠ .writeOutOfService outOfService) :
    ((session.begin_ differs operation).getD session).history =
      session.history.step differs operation := by
  have notGuarded : ¬session.target.callbackInProgress = true := by
    rw [unguarded]
    exact Bool.false_ne_true
  have before := history_idle none unguarded
  cases operation with
  | applyPriorityValue value priorityValue relinquish origin =>
      rw [begin_, if_neg notGuarded, CommandHistory.step, before,
        CommandOperation.perform, applyCommandPriorityValue,
        if_neg notGuarded]
      cases BacnetCommandPriority.slotIndex? priorityValue with
      | none => exact before
      | some index =>
          obtain ⟨⟨_, _, guard, _, _, _⟩, frames, _⟩ := session
          obtain rfl : frames = [] := none
          obtain rfl : guard = false := unguarded
          rewrite [Option.map_some, Option.getD_some, history,
            List.flatMap_singleton, CommandFrame.remaining,
            priorityValueCalls_remaining]
          rfl
  | setRelinquishDefaultValue value origin =>
      rw [begin_, if_neg notGuarded, CommandHistory.step, before,
        CommandOperation.perform, setCommandRelinquishDefault,
        if_neg notGuarded]
      obtain ⟨⟨_, _, guard, _, _, _⟩, frames, _⟩ := session
      obtain rfl : frames = [] := none
      obtain rfl : guard = false := unguarded
      rewrite [Option.getD_some, history, List.flatMap_singleton,
        CommandFrame.remaining, relinquishDefaultCalls_remaining]
      rfl
  | writeOutOfService outOfService =>
      exact (isCommand outOfService rfl).elim

/-- Only guarded operations are under way, one at a time. -/
structure Commanded (session : CommandSession α) : Prop where
  exclusive : session.Exclusive
  guarded : ∀ frame ∈ session.frames, frame.guarded = true

/-- What is under way holds the guard. -/
theorem Commanded.refused
    (commanded : session.Commanded)
    {operation : CommandOperation α}
    (mayAttempt : session.mayAttempt operation = true)
    (underWay : session.frames ≠ []) :
    session.begin_ differs operation = none := by
  rcases commanded.exclusive with ⟨none, _⟩ | ⟨frame, one, guard⟩
  · exact (underWay none).elim
  · refine begin_guarded (guard.trans ?_) mayAttempt underWay
    apply commanded.guarded
    rw [one]
    exact List.mem_singleton_self frame

/-- Going on with an operation changes nothing of the history. -/
theorem Commanded.proceed
    (commanded : session.Commanded) :
    session.proceed.Commanded ∧
      session.proceed.history = session.history := by
  refine ⟨⟨commanded.exclusive.proceed, ?_⟩, ?_⟩
  · have guarded := commanded.guarded
    rcases commanded.exclusive with ⟨none, _⟩ | ⟨frame, one, _⟩
    · rw [CommandSession.proceed, none]
      exact guarded
    · rw [one, List.forall_mem_singleton] at guarded
      rw [CommandSession.proceed, one]
      dsimp only
      split
      · rwa [one, List.forall_mem_singleton]
      · split
        · exact fun _ isMember => (List.not_mem_nil isMember).elim
        · split
          · rwa [List.forall_mem_singleton]
          · rwa [List.forall_mem_singleton]
  · rcases commanded.exclusive with ⟨none, _⟩ | ⟨frame, one, _⟩
    · rw [CommandSession.proceed, none]
    · rw [CommandSession.proceed, one]
      dsimp only
      split
      · rfl
      · split
        · rename_i finished
          cases frame.guarded <;>
            simp [history, one, CommandFrame.remaining, finished]
        · rename_i call rest left
          split
          · rename_i silent
            simp [history, one, CommandFrame.remaining, left, silent]
          · rename_i event called
            simp [history, one, CommandFrame.remaining, left, called]

/-- So does the return of a call. -/
theorem Commanded.callbackReturns
    (commanded : session.Commanded) :
    session.callbackReturns.Commanded ∧
      session.callbackReturns.history = session.history := by
  refine ⟨⟨commanded.exclusive.callbackReturns, ?_⟩, ?_⟩
  · have guarded := commanded.guarded
    rcases commanded.exclusive with ⟨none, _⟩ | ⟨frame, one, _⟩
    · rw [CommandSession.callbackReturns, none]
      exact guarded
    · rw [one, List.forall_mem_singleton] at guarded
      rw [CommandSession.callbackReturns, one]
      exact List.forall_mem_singleton.mpr guarded
  · rcases commanded.exclusive with ⟨none, _⟩ | ⟨frame, one, _⟩
    · rw [CommandSession.callbackReturns, none]
    · rw [CommandSession.callbackReturns, one]
      simp [history, one, CommandFrame.remaining]

/-- A session under commands either goes on or performs one command. -/
theorem Commanded.step
    (commanded : session.Commanded)
    {action : CommandAction α}
    (isCommand :
      ∀ outOfService,
        action ≠ .attempt (.writeOutOfService outOfService)) :
    (session.step differs action).Commanded ∧
      ((session.step differs action).history = session.history ∨
        ∃ operation,
          action = .attempt operation ∧
          (session.step differs action).history =
            session.history.step differs operation) := by
  cases action with
  | attempt operation =>
      have command
          (outOfService : Bool) :
          operation ≠ .writeOutOfService outOfService := by
        rintro rfl
        exact isCommand outOfService rfl
      have refused := @Commanded.refused _ differs _ commanded operation
      by_cases underWay : session.frames = []
      · have unguarded : session.target.callbackInProgress = false := by
          rcases commanded.exclusive with ⟨_, unguarded⟩ | ⟨_, one, _⟩
          · exact unguarded
          · rw [underWay] at one
            cases one
        have mayAttempt : session.mayAttempt operation = true := by
          cases operation <;> simp [CommandSession.mayAttempt, underWay]
        refine ⟨⟨commanded.exclusive.step ?_, ?_⟩,
          .inr ⟨operation, rfl, ?_⟩⟩
        · rintro _ _ _ later
          exact (later underWay).elim
        · rw [CommandSession.step, if_pos mayAttempt]
          cases begun : session.begin_ differs operation with
          | none => exact commanded.guarded
          | some next =>
              obtain ⟨frame, frames, _, guarded | ⟨_, isOutOfService⟩⟩ :=
                begin_frames begun
              · rw [Option.getD_some, frames, underWay,
                  List.forall_mem_singleton]
                exact guarded
              · exact (command _ isOutOfService).elim
        · rw [CommandSession.step, if_pos mayAttempt]
          exact begin_perform underWay unguarded command
      · rw [step_refused fun mayAttempt => refused mayAttempt underWay]
        exact ⟨commanded, .inl rfl⟩
  | proceed =>
      exact ⟨commanded.proceed.1, .inl commanded.proceed.2⟩
  | callbackReturns =>
      exact ⟨commanded.callbackReturns.1, .inl commanded.callbackReturns.2⟩

/-- A run of commands performs some of the attempted ones, in their order. -/
theorem run_performs
    {actions : List (CommandAction α)}
    (commanded : session.Commanded)
    (isCommand :
      ∀ action ∈ actions,
        ∀ outOfService,
          action ≠ .attempt (.writeOutOfService outOfService)) :
    ∃ operations,
      (operations.map CommandAction.attempt).Sublist actions ∧
      (run (CommandSession.step differs) session actions).Commanded ∧
        (run (CommandSession.step differs) session actions).history =
          run (CommandHistory.step differs) session.history operations := by
  induction actions generalizing session with
  | nil => exact ⟨[], .slnil, commanded, rfl⟩
  | cons action rest inductionHypothesis =>
      obtain ⟨next, effect⟩ :=
        @Commanded.step _ differs _ commanded action
          (isCommand action List.mem_cons_self)
      obtain ⟨operations, areAttempts, later, histories⟩ :=
        inductionHypothesis next fun action isMember =>
          isCommand action (List.mem_cons_of_mem _ isMember)
      rcases effect with unchanged | ⟨operation, rfl, performed⟩
      · rw [unchanged] at histories
        exact ⟨operations, areAttempts.cons _, later, histories⟩
      · rw [performed] at histories
        exact ⟨operation :: operations, areAttempts.cons_cons _, later,
          histories⟩

end CommandSession

/-! The reports of a command and the state it leaves. -/

/-- The present-value changes among the calls. -/
def presentValueChanges (events : List (CommandEvent α)) : List (α × α) :=
  events.filterMap fun
    | .presentValueChange _ oldValue newValue _ => some (oldValue, newValue)
    | _ => none

/-- The slots that priority-slot calls report, with what they hold. -/
def slotAssignments
    (events : List (CommandEvent α)) :
    List (Fin kSlotCount × Option α) :=
  events.filterMap fun
    | .priorityValueChange _ priorityValue _ _ newOccupied newValue _ =>
        (BacnetCommandPriority.slotIndex? priorityValue).map fun index =>
          (index, if newOccupied then some newValue else none)
    | _ => none

/-- What a slot holds when it is occupied. -/
def BacnetCommandPriority.entry
    (priority : BacnetCommandPriority α)
    (index : Fin kSlotCount) : Option α :=
  if priority.occupied index then some (priority.slots index) else none

/--
The reported changes lead from the initial effective value to this one, and
the reported slots from the initial ones to these.
-/
structure Reconstructs
    (differs : α → α → Bool)
    (initial current : BacnetCommandPriority α)
    (events : List (CommandEvent α)) : Prop where
  chain :
    Chain differs initial.effectiveValue (presentValueChanges events)
      current.effectiveValue
  slots :
    ∀ index,
      ChangeHistory.SameEntry differs
        (replay initial.entry (slotAssignments events) index)
        (current.entry index)

/-- All values in force or waiting are equal to themselves. -/
structure BacnetCommandPriority.Ordinary
    (differs : α → α → Bool)
    (priority : BacnetCommandPriority α) : Prop where
  default :
    differs priority.relinquishDefault priority.relinquishDefault = false
  slots :
    ∀ index,
      priority.occupied index = true →
      differs (priority.slots index) (priority.slots index) = false

/-- Callbacks for the present value and for every slot are registered. -/
def CommandTarget.Reports (target : CommandTarget α) : Prop :=
  ∃ storage,
    target.callbackStorage = some storage ∧
      storage.presentValueChange = true ∧
      ∀ index, storage.priorityValueChange index = true

/-- The values of a command are equal to themselves. -/
def CommandOperation.Ordinary
    (differs : α → α → Bool) : CommandOperation α → Prop
  | .applyPriorityValue value _ relinquish _ =>
      relinquish = false → differs value value = false
  | .setRelinquishDefaultValue value _ => differs value value = false
  | .writeOutOfService _ => True

theorem BacnetCommandPriority.Ordinary.effectiveValue
    {priority : BacnetCommandPriority α}
    (ordinary : priority.Ordinary differs) :
    differs priority.effectiveValue priority.effectiveValue = false := by
  unfold BacnetCommandPriority.effectiveValue
  cases first : priority.effectiveSlot? with
  | none => exact ordinary.default
  | some index => exact ordinary.slots index (List.find?_some first)

theorem BacnetCommandPriority.Ordinary.writeSlot
    {priority : BacnetCommandPriority α}
    (ordinary : priority.Ordinary differs)
    (index : Fin kSlotCount)
    {relinquish : Bool}
    {value : α}
    (valueOrdinary : relinquish = false → differs value value = false) :
    (priority.writeSlot index relinquish value).Ordinary differs := by
  refine ⟨ordinary.default, fun other occupied => ?_⟩
  simp only [BacnetCommandPriority.writeSlot] at occupied ⊢
  cases relinquish with
  | true =>
      rw [Function.update_apply] at occupied
      split at occupied
      · cases occupied
      · exact ordinary.slots other occupied
  | false =>
      rw [if_neg Bool.false_ne_true, Function.update_apply]
      split
      · exact valueOrdinary rfl
      · rename_i another
        rw [Function.update_of_ne another] at occupied
        exact ordinary.slots other occupied

theorem presentValueChanges_append
    (first second : List (CommandEvent α)) :
    presentValueChanges (first ++ second) =
      presentValueChanges first ++ presentValueChanges second :=
  List.filterMap_append

theorem slotAssignments_append
    (first second : List (CommandEvent α)) :
    slotAssignments (first ++ second) =
      slotAssignments first ++ slotAssignments second :=
  List.filterMap_append

/-- A call that is made or not reports what it reports when it is made. -/
theorem filterMap_ite
    {Report : Type}
    (report : CommandEvent α → Option Report)
    (condition : Prop)
    [Decidable condition]
    (event : CommandEvent α) :
    (if condition then [event] else []).filterMap report =
      if condition then (report event).toList else [] := by
  split
  · cases reported : report event <;> simp [reported]
  · rfl

/-- The slot before and after a write differ in the eyes of the source. -/
def slotChanged
    (differs : α → α → Bool)
    (old written : BacnetCommandPriority α)
    (index : Fin kSlotCount) : Bool :=
  old.occupied index != written.occupied index ||
    (old.occupied index && written.occupied index &&
      differs (old.slots index) (written.slots index))

/-- What an accepted command did and reported. -/
theorem perform_reports
    {target : CommandTarget α}
    {operation : CommandOperation α}
    {written : CommandWriteResult α}
    (reports : target.Reports)
    (performed : operation.perform differs target = some written) :
    presentValueChanges written.events =
        (if differs target.priority.effectiveValue
            written.priority.effectiveValue then
          [(target.priority.effectiveValue,
            written.priority.effectiveValue)]
        else []) ∧
      ((∃ value origin,
          operation = .setRelinquishDefaultValue value origin ∧
          written.priority =
            { target.priority with relinquishDefault := value } ∧
          slotAssignments written.events = []) ∨
        ∃ value priorityValue relinquish origin index,
          operation =
            .applyPriorityValue value priorityValue relinquish origin ∧
          written.priority =
            target.priority.writeSlot index relinquish value ∧
          slotAssignments written.events =
            (if slotChanged differs target.priority written.priority
                index then
              [(index, written.priority.entry index)]
            else [])) := by
  obtain ⟨storage, isStorage, presentValue, slots⟩ := reports
  cases operation with
  | applyPriorityValue value priorityValue relinquish origin =>
      simp only [CommandOperation.perform, applyCommandPriorityValue,
        Option.ite_none_left_eq_some] at performed
      obtain ⟨_, performed⟩ := performed
      cases addressed :
          BacnetCommandPriority.slotIndex? priorityValue with
      | none =>
          rw [addressed] at performed
          cases performed
      | some index =>
          rw [addressed] at performed
          obtain rfl := Option.some.inj performed
          simp only [isStorage, priorityWriteCallbacks, slots,
            presentValue, Bool.and_true]
          constructor
          · simp [presentValueChanges, filterMap_ite]
          · refine .inr ⟨value, priorityValue, relinquish, origin, index,
              rfl, rfl, ?_⟩
            simp [slotAssignments, filterMap_ite, addressed, slotChanged,
              BacnetCommandPriority.entry]
  | setRelinquishDefaultValue value origin =>
      simp only [CommandOperation.perform, setCommandRelinquishDefault,
        Option.ite_none_left_eq_some] at performed
      obtain ⟨_, performed⟩ := performed
      obtain rfl := Option.some.inj performed
      simp only [isStorage, presentValue, Bool.and_true]
      constructor
      · simp [presentValueChanges, filterMap_ite]
      · refine .inl ⟨value, origin, rfl, rfl, ?_⟩
        simp [slotAssignments, filterMap_ite]
  | writeOutOfService outOfService => cases performed

/-- Entries that hold ordinary values are the same as themselves. -/
theorem BacnetCommandPriority.Ordinary.sameEntry
    {priority : BacnetCommandPriority α}
    (ordinary : priority.Ordinary differs)
    (index : Fin kSlotCount) :
    ChangeHistory.SameEntry differs (priority.entry index)
      (priority.entry index) := by
  unfold BacnetCommandPriority.entry
  split
  · rename_i occupied
    exact ordinary.slots index occupied
  · trivial

/-- A slot the source does not see change is the same. -/
theorem sameEntry_of_unchanged
    {old written : BacnetCommandPriority α}
    {index : Fin kSlotCount}
    (unchanged : ¬slotChanged differs old written index = true) :
    ChangeHistory.SameEntry differs (old.entry index)
      (written.entry index) := by
  simp only [slotChanged, Bool.or_eq_true, bne_iff_ne, ne_eq,
    Bool.and_eq_true, not_or, not_not, not_and,
    Bool.not_eq_true] at unchanged
  obtain ⟨sameOccupied, sameValue⟩ := unchanged
  unfold BacnetCommandPriority.entry
  rw [← sameOccupied]
  split
  · rename_i occupied
    exact sameValue ⟨occupied, sameOccupied ▸ occupied⟩
  · trivial

/-- A slot that is not written keeps its entry. -/
theorem entry_writeSlot_of_ne
    (priority : BacnetCommandPriority α)
    {index other : Fin kSlotCount}
    (relinquish : Bool)
    (value : α)
    (another : other ≠ index) :
    (priority.writeSlot index relinquish value).entry other =
      priority.entry other := by
  cases relinquish <;>
    simp [BacnetCommandPriority.entry, BacnetCommandPriority.writeSlot,
      Function.update_of_ne another]

/-- A command and its reports continue the reports before it. -/
theorem Reconstructs.perform
    (comparison : Comparison differs)
    {initial : BacnetCommandPriority α}
    {target : CommandTarget α}
    {events : List (CommandEvent α)}
    (soFar : Reconstructs differs initial target.priority events)
    (reports : target.Reports)
    (ordinary : target.priority.Ordinary differs)
    {operation : CommandOperation α}
    (operationOrdinary : operation.Ordinary differs)
    {written : CommandWriteResult α}
    (performed : operation.perform differs target = some written) :
    written.priority.Ordinary differs ∧
      Reconstructs differs initial written.priority
        (events ++ written.events) := by
  obtain ⟨changes, slots⟩ := perform_reports reports performed
  have nowOrdinary : written.priority.Ordinary differs := by
    rcases slots with ⟨value, origin, rfl, now, _⟩ |
      ⟨value, priorityValue, relinquish, origin, index, rfl, now, _⟩
    · rw [now]
      exact ⟨operationOrdinary, ordinary.slots⟩
    · rw [now]
      exact ordinary.writeSlot index operationOrdinary
  refine ⟨nowOrdinary, ?_, fun other => ?_⟩
  · rw [presentValueChanges_append, changes]
    by_cases changed :
        differs target.priority.effectiveValue
          written.priority.effectiveValue = true
    · rw [if_pos changed]
      exact soFar.chain.extend changed nowOrdinary.effectiveValue
    · rw [if_neg changed, List.append_nil]
      exact soFar.chain.move comparison (Bool.not_eq_true _ ▸ changed)
  · rw [slotAssignments_append]
    rcases slots with ⟨value, origin, _, now, none⟩ |
      ⟨value, priorityValue, relinquish, origin, index, _, now, assigned⟩
    · rw [none, List.append_nil, now]
      exact soFar.slots other
    · have same :
          other ≠ index →
            written.priority.entry other = target.priority.entry other := by
        rw [now]
        exact entry_writeSlot_of_ne _ _ _
      rw [assigned]
      by_cases changed :
          slotChanged differs target.priority written.priority index = true
      · rw [if_pos changed, replay_concat]
        by_cases isWritten : other = index
        · rw [isWritten, Function.update_self]
          exact nowOrdinary.sameEntry index
        · rw [Function.update_of_ne isWritten, same isWritten]
          exact soFar.slots other
      · rw [if_neg changed, List.append_nil]
        by_cases isWritten : other = index
        · rw [isWritten]
          exact (soFar.slots index).trans comparison
            (sameEntry_of_unchanged changed)
        · rw [same isWritten]
          exact soFar.slots other

/-- What is true of a history along its commands. -/
structure CommandHistory.Faithful
    (differs : α → α → Bool)
    (initial : BacnetCommandPriority α)
    (history : CommandHistory α) : Prop where
  reports : history.target.Reports
  ordinary : history.target.priority.Ordinary differs
  reconstructs :
    Reconstructs differs initial history.target.priority history.events

theorem CommandHistory.Faithful.step
    (comparison : Comparison differs)
    {initial : BacnetCommandPriority α}
    {history : CommandHistory α}
    (faithful : history.Faithful differs initial)
    {operation : CommandOperation α}
    (ordinary : operation.Ordinary differs) :
    (history.step differs operation).Faithful differs initial := by
  unfold CommandHistory.step
  cases performed : operation.perform differs history.target with
  | none => exact faithful
  | some written =>
      have next :=
        faithful.reconstructs.perform comparison faithful.reports
          faithful.ordinary ordinary performed
      exact ⟨faithful.reports, next.1, next.2⟩

/-- Histories of ordinary commands are faithful. -/
theorem CommandHistory.run_faithful
    (comparison : Comparison differs)
    {initial : BacnetCommandPriority α}
    {history : CommandHistory α}
    {operations : List (CommandOperation α)}
    (ordinary :
      ∀ operation ∈ operations, operation.Ordinary differs)
    (faithful : history.Faithful differs initial) :
    (run (CommandHistory.step differs) history operations).Faithful
      differs initial := by
  induction operations generalizing history with
  | nil => exact faithful
  | cons operation rest inductionHypothesis =>
      exact inductionHypothesis
        (fun other isMember =>
          ordinary other (List.mem_cons_of_mem _ isMember))
        (faithful.step comparison
          (ordinary operation List.mem_cons_self))

/--
Whatever is attempted, before or inside calls: once nothing is under way, the
calls that were made reconstruct the slots.
-/
def CommandTarget.ReportsItsRuns
    (differs : α → α → Bool)
    (target : CommandTarget α) : Prop :=
  target.callbackInProgress = false →
  target.Reports →
  target.priority.Ordinary differs →
  ∀ actions : List (CommandAction α),
    (∀ operation,
      .attempt operation ∈ actions →
      operation.Ordinary differs ∧
        ∀ outOfService, operation ≠ .writeOutOfService outOfService) →
    let session :=
      run (CommandSession.step differs) (CommandSession.idle target) actions
    session.frames = [] →
    Reconstructs differs target.priority session.target.priority
      session.events

theorem reportsItsRuns
    (comparison : Comparison differs)
    (target : CommandTarget α) :
    target.ReportsItsRuns differs := by
  intro unguarded reports ordinary actions commands session finished
  obtain ⟨operations, attempted, commanded, histories⟩ :=
    @CommandSession.run_performs _ differs
      (CommandSession.idle target) actions
      ⟨.inl ⟨rfl, unguarded⟩, fun _ isMember =>
        (List.not_mem_nil isMember).elim⟩
      (by
        rintro action isMember outOfService rfl
        exact (commands _ isMember).2 outOfService rfl)
  have quiet : session.target.callbackInProgress = false := by
    rcases commanded.exclusive with ⟨_, quiet⟩ | ⟨_, one, _⟩
    · exact quiet
    · rw [show session.frames = _ from one] at finished
      cases finished
  rw [CommandSession.history_idle finished quiet,
    CommandSession.history_idle rfl unguarded] at histories
  have start :
      (⟨target, []⟩ : CommandHistory α).Faithful differs
        target.priority := by
    refine ⟨reports, ordinary, ordinary.effectiveValue, fun index => ?_⟩
    exact ordinary.sameEntry index
  have faithful :=
    CommandHistory.run_faithful comparison
      (fun operation isMember =>
        (commands operation
          (attempted.subset (List.mem_map_of_mem isMember))).1)
      start
  have performed :
      (⟨session.target, session.events⟩ : CommandHistory α) =
        run (CommandHistory.step differs) ⟨target, []⟩ operations :=
    histories
  rw [← performed] at faithful
  exact faithful.reconstructs

end Commands

theorem binaryDiffers_comparison : Comparison binaryDiffers where
  symm same := by
    rw [binaryDiffers, bne_eq_false_iff_eq] at same ⊢
    exact same.symm
  trans left right := by
    rw [binaryDiffers, bne_eq_false_iff_eq] at left right ⊢
    exact left.trans right

/-- The values that are not ordinary are the ones that are not numbers. -/
theorem analogDiffers_self
    (value : Binary32) :
    analogDiffers value value = value.isNaN := by
  cases isNaN : value.isNaN with
  | false => rw [analogDiffers, Binary32.feq_self isNaN, Bool.not_true]
  | true =>
      rw [analogDiffers, Binary32.feq_eq_false_of_isNaN isNaN,
        Bool.not_false]

theorem analogDiffers_comparison : Comparison analogDiffers where
  symm same := by
    rw [analogDiffers, Binary32.feq_comm]
    exact same
  trans left right := by
    rw [analogDiffers, Bool.not_eq_false'] at left right ⊢
    exact Binary32.feq_trans left right

/--
The reports of every Binary Output, Analog Output and commandable Analog
Value reconstruct what became of it.
-/
theorem commandEvents_reconstruct :
    (∀ output : BacnetServerBinaryOutput,
      output.commandTarget.ReportsItsRuns binaryDiffers) ∧
    (∀ output : BacnetServerAnalogOutput,
      output.commandTarget.ReportsItsRuns analogDiffers) ∧
    ∀ value : BacnetServerCommandableAnalogValue,
      value.commandTarget.ReportsItsRuns analogDiffers :=
  ⟨fun _ => reportsItsRuns binaryDiffers_comparison _,
    fun _ => reportsItsRuns analogDiffers_comparison _,
    fun _ => reportsItsRuns analogDiffers_comparison _⟩

/-- A Binary Output with all callbacks. -/
def reportingOutput : BacnetServerBinaryOutput :=
  { instance_ := 1
    objectName := [66]
    callbackStorage := some {
      presentValueChange := true
      priorityValueChange := fun _ => true
      effectivePriorityChange := true
      relinquishChange := true } }

/-- A callback attempts a second command, which is refused. -/
def nestedCommand : List (CommandAction Bool) :=
  [.attempt (.applyPriorityValue true 8 false .local), .proceed, .proceed,
    .attempt (.setRelinquishDefaultValue true .relinquishDefault),
    .callbackReturns, .proceed, .callbackReturns, .proceed,
    .callbackReturns, .proceed, .proceed]

/-- The reports of this run. -/
theorem nestedCommand_reconstructs :
    Reconstructs binaryDiffers reportingOutput.priority
      (run (CommandSession.step binaryDiffers)
        (CommandSession.idle reportingOutput.commandTarget)
        nestedCommand).target.priority
      [.priorityValueChange reportingOutput.objectId 8 false false true true
          .local,
        .effectivePriorityChange reportingOutput.objectId 0 8 false true
          .local,
        .presentValueChange reportingOutput.objectId false true .local] := by
  refine commandEvents_reconstruct.1 reportingOutput rfl
    ⟨_, rfl, rfl, fun _ => rfl⟩ ⟨rfl, fun _ _ => bne_self_eq_false _⟩
    nestedCommand ?_ rfl
  intro operation isMember
  simp only [nestedCommand, List.mem_cons, CommandAction.attempt.injEq,
    reduceCtorEq, List.not_mem_nil, or_false, false_or] at isMember
  rcases isMember with rfl | rfl
  · exact ⟨fun _ => rfl, fun _ => by simp⟩
  · exact ⟨rfl, fun _ => by simp⟩

end BacnetStack
