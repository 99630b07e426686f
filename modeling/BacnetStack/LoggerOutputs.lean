import BacnetStack.EventRun
import BacnetStack.LoggerRecords
import BacnetStack.Throttle
import Mathlib.Data.List.ReduceOption

namespace BacnetStack

/-!
# Outputs of the logger

A logger offers each record to its outputs in the order of their
registration.  An output has a level, a filter and a minimum interval of its
own, and the interval counts from the record it logged last, not from the one
it was offered last.
-/

/-- An output object of the application. -/
abbrev OutputId : Type := Nat

/-- A filter with its user data. -/
abbrev BacnetLogFilter : Type := BacnetLogRecord → Bool

structure BacnetLogOutput where
  level : BacnetLogLevel := .info
  minIntervalMs : UInt32 := 0
  lastLogMs : UInt32 := 0
  hasLastLogMs : Bool := false
  filter : Option BacnetLogFilter := none

namespace BacnetLogOutput

variable (output : BacnetLogOutput) (record : BacnetLogRecord)

def shouldLog : Bool × BacnetLogOutput :=
  if !isLevelAllowed record.level output.level then
    (false, output)
  else if output.filter.any fun filter => !filter record then
    (false, output)
  else if output.minIntervalMs ≠ 0 then
    if output.hasLastLogMs &&
        decide (record.timestampMs - output.lastLogMs < output.minIntervalMs)
    then
      (false, output)
    else
      (true,
        { output with
          lastLogMs := record.timestampMs
          hasLastLogMs := true })
  else
    (true, output)

/-- The level and the filter of the output let the record through. -/
def accepts : Bool :=
  isLevelAllowed record.level output.level &&
    output.filter.all fun filter => filter record

/-- When the output logged last under an interval. -/
def lastLog? : Option UInt32 :=
  if output.hasLastLogMs then some output.lastLogMs else none

end BacnetLogOutput

/-- The used part of the logger's `outputs_`. -/
structure LogOutputs (kMaxOutputs : Nat) where
  ids : List OutputId
  nodup : ids.Nodup
  bounded : ids.length ≤ kMaxOutputs
  deriving DecidableEq

namespace LogOutputs

variable {kMaxOutputs : Nat}

def empty : LogOutputs kMaxOutputs :=
  ⟨[], List.nodup_nil, Nat.zero_le kMaxOutputs⟩

/-- The output is not there yet, and there is room for it. -/
def Admits
    (outputs : LogOutputs kMaxOutputs)
    (output : OutputId) : Prop :=
  output ∉ outputs.ids ∧ outputs.ids.length < kMaxOutputs

instance
    (outputs : LogOutputs kMaxOutputs)
    (output : OutputId) :
    Decidable (outputs.Admits output) :=
  inferInstanceAs (Decidable (_ ∧ _))

def addOutput
    (outputs : LogOutputs kMaxOutputs)
    (output : OutputId) : LogOutputs kMaxOutputs :=
  if admits : outputs.Admits output then
    ⟨outputs.ids ++ [output],
      (List.nodup_append_comm.mp
        (List.nodup_cons.mpr ⟨admits.1, outputs.nodup⟩)), by
      rw [List.length_append]
      exact admits.2⟩
  else
    outputs

def removeOutput
    (outputs : LogOutputs kMaxOutputs)
    (output : OutputId) : LogOutputs kMaxOutputs :=
  ⟨outputs.ids.erase output, outputs.nodup.erase output,
    Nat.le_trans List.length_erase_le outputs.bounded⟩

end LogOutputs

/-- `BACNET_ENABLE_LOGGING` and `BACNET_ENABLE_VERBOSE_LOGGING` -/
structure LogBuild where
  logging : Bool := true
  verboseLogging : Bool := false

structure BacnetLogger (kMaxOutputs kMaxTagDepth : Nat) where
  outputs : LogOutputs kMaxOutputs := .empty
  globalLevel : BacnetLogLevel := .info
  baseTag : List UInt8 := []
  tagStack : LogTagStack kMaxTagDepth := .empty
  hasClock : Bool := false

def isEnabledFor (build : LogBuild) (level : BacnetLogLevel) : Bool :=
  build.logging && (build.verboseLogging || !isVerboseLevel level)

namespace BacnetLogger

variable {kMaxOutputs kMaxTagDepth : Nat}
  (logger : BacnetLogger kMaxOutputs kMaxTagDepth)

def shouldEmit (build : LogBuild) (level : BacnetLogLevel) : Bool :=
  isEnabledFor build level && isLevelAllowed level logger.globalLevel

/-- The record of `logV`; `text` is what the format gives without a limit. -/
def recordOf
    (level : BacnetLogLevel)
    (tag : LogTag)
    (text : List UInt8)
    (nowMs : UInt32) : BacnetLogRecord where
  level := level
  tag := some (buildTag logger.baseTag logger.tagStack tag kMaxTagLength)
  message := some (text.take (kMaxMessageLength - 1))
  timestampMs := if logger.hasClock then nowMs else 0
  component := some defaultTag

end BacnetLogger

/-- A record that an output has logged, and when that was in true time. -/
structure LogEntry where
  output : OutputId
  record : BacnetLogRecord
  trueMs : Nat
  deriving Repr, DecidableEq

/-- When a record was logged, by the clock of the logger. -/
def LogEntry.stampMs (entry : LogEntry) : UInt32 :=
  entry.record.timestampMs

/-- A logger, the outputs of the application, and what they have logged. -/
structure LoggerSystem (kMaxOutputs kMaxTagDepth : Nat) where
  logger : BacnetLogger kMaxOutputs kMaxTagDepth := {}
  outputs : OutputId → BacnetLogOutput := fun _ => {}
  logged : List LogEntry := []

/-- The calls of an application; `log` stands for all forms of `logV`. -/
inductive LoggerCall where
  | addOutput (output : OutputId)
  | removeOutput (output : OutputId)
  | clearOutputs
  | setGlobalLevel (level : BacnetLogLevel)
  | setClock (hasClock : Bool)
  | setTag (tag : LogTag)
  | clearTag
  | pushTag (tag : LogTag)
  | popTag
  | setLevel (output : OutputId) (level : BacnetLogLevel)
  | setMinIntervalMs (output : OutputId) (intervalMs : UInt32)
  | setFilter (output : OutputId) (filter : Option BacnetLogFilter)
  | emit (record : BacnetLogRecord)
  | log (level : BacnetLogLevel) (tag : LogTag) (text : LogTag)

/-- A call, and when it is made in true time. -/
structure LoggerEvent where
  trueMs : Nat
  call : LoggerCall

namespace LoggerSystem

variable {kMaxOutputs kMaxTagDepth : Nat}

def setOutput
    (system : LoggerSystem kMaxOutputs kMaxTagDepth)
    (id : OutputId)
    (output : BacnetLogOutput) : LoggerSystem kMaxOutputs kMaxTagDepth :=
  { system with outputs := Function.update system.outputs id output }

def withLogger
    (system : LoggerSystem kMaxOutputs kMaxTagDepth)
    (logger : BacnetLogger kMaxOutputs kMaxTagDepth) :
    LoggerSystem kMaxOutputs kMaxTagDepth :=
  { system with logger := logger }

/-- One output is asked whether it logs a record. -/
def offer
    (record : BacnetLogRecord)
    (trueMs : Nat)
    (system : LoggerSystem kMaxOutputs kMaxTagDepth)
    (id : OutputId) : LoggerSystem kMaxOutputs kMaxTagDepth :=
  let (logs, output) := (system.outputs id).shouldLog record
  { system.setOutput id output with
    logged :=
      if logs then system.logged ++ [⟨id, record, trueMs⟩]
      else system.logged }

variable (build : LogBuild)

def emit
    (system : LoggerSystem kMaxOutputs kMaxTagDepth)
    (record : BacnetLogRecord)
    (trueMs : Nat) : LoggerSystem kMaxOutputs kMaxTagDepth :=
  if system.logger.shouldEmit build record.level then
    system.logger.outputs.ids.foldl (offer record trueMs) system
  else
    system

/-- `logV`; without a format there is no text. -/
def logV
    (system : LoggerSystem kMaxOutputs kMaxTagDepth)
    (level : BacnetLogLevel)
    (tag text : LogTag)
    (trueMs : Nat) : LoggerSystem kMaxOutputs kMaxTagDepth :=
  match text with
  | none => system
  | some text =>
      if system.logger.shouldEmit build level then
        system.emit build
          (system.logger.recordOf level tag text
            (WrappingClock.reading trueMs))
          trueMs
      else
        system

def step
    (system : LoggerSystem kMaxOutputs kMaxTagDepth)
    (event : LoggerEvent) : LoggerSystem kMaxOutputs kMaxTagDepth :=
  let logger := system.logger
  match event.call with
  | .addOutput output =>
      system.withLogger
        { logger with outputs := logger.outputs.addOutput output }
  | .removeOutput output =>
      system.withLogger
        { logger with outputs := logger.outputs.removeOutput output }
  | .clearOutputs => system.withLogger { logger with outputs := .empty }
  | .setGlobalLevel level =>
      system.withLogger { logger with globalLevel := level }
  | .setClock hasClock =>
      system.withLogger { logger with hasClock := hasClock }
  | .setTag tag =>
      system.withLogger
        { logger with baseTag := LogTagStack.storedText (tag.getD []) }
  | .clearTag => system.withLogger { logger with baseTag := [] }
  | .pushTag tag =>
      system.withLogger
        { logger with tagStack := logger.tagStack.pushTag tag }
  | .popTag =>
      system.withLogger { logger with tagStack := logger.tagStack.popTag }
  | .setLevel id level =>
      system.setOutput id { system.outputs id with level := level }
  | .setMinIntervalMs id intervalMs =>
      system.setOutput id
        { system.outputs id with minIntervalMs := intervalMs }
  | .setFilter id filter =>
      system.setOutput id { system.outputs id with filter := filter }
  | .emit record => system.emit build record event.trueMs
  | .log level tag text => system.logV build level tag text event.trueMs

/-- A system of one output, which has an interval. -/
def intervalSystem : LoggerSystem 4 4 where
  logger := { outputs := .addOutput .empty 0 }
  outputs _ := { minIntervalMs := 100 }

def clockedSystem : LoggerSystem 4 4 :=
  intervalSystem.withLogger { intervalSystem.logger with hasClock := true }

/-- The same message at some times. -/
def repeatedLog (times : List Nat) : List LoggerEvent :=
  times.map fun trueMs => ⟨trueMs, .log .info (some [65]) (some [66])⟩

theorem keeps_repeatedLog
    (times : List Nat)
    (id : OutputId) :
    ∀ event ∈ repeatedLog times, ∀ intervalMs,
      event.call ≠ .setMinIntervalMs id intervalMs := by
  intro event isEvent intervalMs isSet
  obtain ⟨trueMs, _, rfl⟩ := List.mem_map.mp isEvent
  cases isSet

end LoggerSystem

namespace BacnetLogOutput

variable (output : BacnetLogOutput) (record : BacnetLogRecord)

/-- An output that has logged a record notes when, under an interval. -/
def noted : BacnetLogOutput :=
  if output.minIntervalMs ≠ 0 then
    { output with lastLogMs := record.timestampMs, hasLastLogMs := true }
  else
    output

/-- The output logs the record. -/
def logs : Bool :=
  output.accepts record &&
    Throttle.passes output.minIntervalMs output.lastLog? record.timestampMs

/-- An output logs what it accepts and what passes its interval. -/
theorem shouldLog_eq :
    output.shouldLog record =
      if output.logs record then (true, output.noted record)
      else (false, output) := by
  have accepted :
      (output.filter.any fun filter => !filter record) =
        !output.filter.all fun filter => filter record := by
    rcases output.filter with _ | filter
    · rfl
    · rfl
  unfold shouldLog logs accepts noted
  rw [accepted]
  cases isLevelAllowed record.level output.level with
  | false => rfl
  | true =>
      cases output.filter.all fun filter => filter record with
      | false => rfl
      | true =>
          rcases eq_or_ne output.minIntervalMs 0 with isZero | positive
          · rw [isZero, Throttle.passes_zero]
            rfl
          · rw [if_pos positive, if_pos positive]
            unfold lastLog? Throttle.passes
            cases output.hasLastLogMs with
            | false => rfl
            | true =>
                by_cases isEarly :
                    record.timestampMs - output.lastLogMs <
                      output.minIntervalMs
                · simp [isEarly]
                · have isLate := UInt32.not_lt.mp isEarly
                  simp [isEarly, isLate]

@[simp] theorem minIntervalMs_noted :
    (output.noted record).minIntervalMs = output.minIntervalMs := by
  unfold noted
  split <;> rfl

theorem lastLog?_noted
    (positive : output.minIntervalMs ≠ 0) :
    (output.noted record).lastLog? = some record.timestampMs := by
  unfold noted
  rw [if_pos positive]
  rfl

end BacnetLogOutput

namespace LoggerSystem

variable {kMaxOutputs kMaxTagDepth : Nat}

/-- What an output has logged, in order. -/
def loggedBy
    (system : LoggerSystem kMaxOutputs kMaxTagDepth)
    (id : OutputId) : List LogEntry :=
  system.logged.filter (·.output = id)

section

variable (system : LoggerSystem kMaxOutputs kMaxTagDepth)
  (record : BacnetLogRecord) (trueMs : Nat)

theorem offer_eq
    (id : OutputId) :
    system.offer record trueMs id =
      if (system.outputs id).logs record then
        { system.setOutput id ((system.outputs id).noted record) with
          logged := system.logged ++ [⟨id, record, trueMs⟩] }
      else
        system := by
  unfold offer
  rw [BacnetLogOutput.shouldLog_eq]
  by_cases isLogged : (system.outputs id).logs record = true
  · rw [if_pos isLogged, if_pos isLogged]
    rfl
  · rw [if_neg isLogged, if_neg isLogged]
    unfold setOutput
    dsimp only
    rw [Function.update_eq_self]
    rfl

/-- An offer to an output is none to the others. -/
theorem offer_of_ne
    {id other : OutputId}
    (another : other ≠ id) :
    (system.offer record trueMs id).outputs other = system.outputs other ∧
      (system.offer record trueMs id).loggedBy other =
        system.loggedBy other := by
  rw [offer_eq]
  split
  · refine ⟨Function.update_of_ne another _ _, ?_⟩
    have notOther : ¬id = other := another.symm
    simp [loggedBy, notOther]
  · exact ⟨rfl, rfl⟩

theorem offer_self
    (id : OutputId) :
    (system.offer record trueMs id).outputs id =
        (if (system.outputs id).logs record then
          (system.outputs id).noted record
        else
          system.outputs id) ∧
      (system.offer record trueMs id).loggedBy id =
        system.loggedBy id ++
          if (system.outputs id).logs record then [⟨id, record, trueMs⟩]
          else [] := by
  rw [offer_eq]
  split
  · refine ⟨Function.update_self .., ?_⟩
    simp [loggedBy]
  · exact ⟨rfl, (List.append_nil _).symm⟩

/-- Each output of a list without duplicates is offered the record once. -/
theorem foldl_offer
    {ids : List OutputId}
    (nodup : ids.Nodup)
    (id : OutputId) :
    (ids.foldl (offer record trueMs) system).outputs id =
        (if id ∈ ids ∧ (system.outputs id).logs record = true then
          (system.outputs id).noted record
        else
          system.outputs id) ∧
      (ids.foldl (offer record trueMs) system).loggedBy id =
        system.loggedBy id ++
          if id ∈ ids ∧ (system.outputs id).logs record = true then
            [⟨id, record, trueMs⟩]
          else
            [] := by
  induction ids generalizing system with
  | nil =>
      simp
  | cons first rest inductionHypothesis =>
      rw [List.nodup_cons] at nodup
      have later := inductionHypothesis
        (system.offer record trueMs first) nodup.2
      rw [List.foldl_cons]
      rcases eq_or_ne id first with rfl | another
      · have offered := system.offer_self record trueMs id
        have notLater (holds : Prop) : ¬(id ∈ rest ∧ holds) :=
          fun both => nodup.1 both.1
        have isHere :
            (id ∈ id :: rest ∧ (system.outputs id).logs record = true) ↔
              (system.outputs id).logs record = true :=
          and_iff_right List.mem_cons_self
        rw [if_neg (notLater _), if_neg (notLater _), List.append_nil]
          at later
        simp only [isHere]
        exact ⟨later.1.trans offered.1, later.2.trans offered.2⟩
      · have offered := system.offer_of_ne record trueMs another
        have isLater : id ∈ first :: rest ↔ id ∈ rest :=
          List.mem_cons.trans (or_iff_right another)
        rw [offered.1, offered.2] at later
        simp only [isLater]
        exact later

end

section

variable (build : LogBuild) (id : OutputId)
  (system : LoggerSystem kMaxOutputs kMaxTagDepth) (event : LoggerEvent)

/-- The record that a call makes the logger emit. -/
def emitted? : Option BacnetLogRecord :=
  match event.call with
  | .emit record =>
      if system.logger.shouldEmit build record.level then some record
      else none
  | .log level tag text =>
      if system.logger.shouldEmit build level then
        text.map fun text =>
          system.logger.recordOf level tag text
            (WrappingClock.reading event.trueMs)
      else
        none
  | _ => none

/-- The record of a call that gets as far as the interval of an output. -/
def offered? : Option LogEntry :=
  (system.emitted? build event).bind fun record =>
    if id ∈ system.logger.outputs.ids ∧
        (system.outputs id).accepts record = true then
      some ⟨id, record, event.trueMs⟩
    else
      none

variable {build id system event}

/-- A call that emits a record offers it to the outputs one by one. -/
theorem step_of_emitted
    {record : BacnetLogRecord}
    (isEmitted : system.emitted? build event = some record) :
    system.step build event =
      system.logger.outputs.ids.foldl (offer record event.trueMs) system := by
  rcases event with ⟨trueMs, call⟩
  unfold emitted? at isEmitted
  cases call with
  | emit given =>
      dsimp only at isEmitted
      split at isEmitted
      · rename_i allowed
        cases isEmitted
        exact if_pos allowed
      · cases isEmitted
  | log level tag text =>
      dsimp only at isEmitted
      split at isEmitted
      · rename_i allowed
        rcases text with _ | text
        · cases isEmitted
        · cases isEmitted
          exact (if_pos allowed).trans (if_pos allowed)
      · cases isEmitted
  | _ => cases isEmitted

/-- A call that emits nothing leaves what was logged, and when. -/
theorem step_of_silent
    (isSilent : system.emitted? build event = none)
    (keeps :
      ∀ intervalMs, event.call ≠ .setMinIntervalMs id intervalMs) :
    (system.step build event).logged = system.logged ∧
      ((system.step build event).outputs id).lastLog? =
        (system.outputs id).lastLog? ∧
      ((system.step build event).outputs id).minIntervalMs =
        (system.outputs id).minIntervalMs := by
  rcases event with ⟨trueMs, call⟩
  have adjusted
      (other : OutputId)
      (output : BacnetLogOutput)
      (sameLast :
        output.lastLog? = (system.outputs other).lastLog?)
      (sameInterval :
        other = id →
          output.minIntervalMs = (system.outputs other).minIntervalMs) :
      (system.setOutput other output).logged = system.logged ∧
        ((system.setOutput other output).outputs id).lastLog? =
          (system.outputs id).lastLog? ∧
        ((system.setOutput other output).outputs id).minIntervalMs =
          (system.outputs id).minIntervalMs := by
    unfold setOutput
    dsimp only
    rcases eq_or_ne id other with rfl | another
    · rw [Function.update_self]
      exact ⟨rfl, sameLast, sameInterval rfl⟩
    · rw [Function.update_of_ne another]
      exact ⟨rfl, rfl, rfl⟩
  unfold emitted? at isSilent
  cases call with
  | setLevel other level => exact adjusted other _ rfl fun _ => rfl
  | setMinIntervalMs other intervalMs =>
      refine adjusted other _ rfl fun same => ?_
      exact absurd (congrArg (LoggerCall.setMinIntervalMs · intervalMs) same)
        (keeps intervalMs)
  | setFilter other filter => exact adjusted other _ rfl fun _ => rfl
  | emit record =>
      dsimp only at isSilent
      split at isSilent
      · cases isSilent
      · rename_i refused
        have isSame :
            system.step build ⟨trueMs, .emit record⟩ = system :=
          if_neg refused
        rw [isSame]
        exact ⟨rfl, rfl, rfl⟩
  | log level tag text =>
      rcases text with _ | text
      · exact ⟨rfl, rfl, rfl⟩
      · dsimp only at isSilent
        split at isSilent
        · cases isSilent
        · rename_i refused
          have isSame :
              system.step build ⟨trueMs, .log level tag (some text)⟩ =
                system :=
            if_neg refused
          rw [isSame]
          exact ⟨rfl, rfl, rfl⟩
  | _ => exact ⟨rfl, rfl, rfl⟩

/--
What one call does to an output: it logs the record it is offered, if that
passes its interval.
-/
theorem step_output
    (keeps :
      ∀ intervalMs, event.call ≠ .setMinIntervalMs id intervalMs) :
    ((system.step build event).outputs id).minIntervalMs =
        (system.outputs id).minIntervalMs ∧
      (system.step build event).loggedBy id =
        system.loggedBy id ++
          ((system.offered? build id event).filter fun entry =>
            Throttle.passes (system.outputs id).minIntervalMs
              (system.outputs id).lastLog? entry.stampMs).toList ∧
      ((system.outputs id).minIntervalMs ≠ 0 →
        ((system.step build event).outputs id).lastLog? =
          ((system.offered? build id event).map
            (Throttle.lastAfter (system.outputs id).minIntervalMs
              LogEntry.stampMs (system.outputs id).lastLog?)).getD
                (system.outputs id).lastLog?) := by
  unfold offered?
  rcases isEmitted : system.emitted? build event with _ | record
  · obtain ⟨logged, last, interval⟩ := step_of_silent isEmitted keeps
    refine ⟨interval, ?_, fun _ => last⟩
    unfold loggedBy
    rw [logged]
    exact (List.append_nil _).symm
  · have offered := system.foldl_offer record event.trueMs
      system.logger.outputs.nodup id
    rw [← step_of_emitted isEmitted] at offered
    rw [offered.1, offered.2, Option.bind_some]
    by_cases reached :
        id ∈ system.logger.outputs.ids ∧
          (system.outputs id).accepts record = true
    · rw [if_pos reached, Option.filter_some, Option.map_some,
        Option.getD_some]
      have logs :
          (system.outputs id).logs record =
            Throttle.passes (system.outputs id).minIntervalMs
              (system.outputs id).lastLog? record.timestampMs := by
        rw [BacnetLogOutput.logs, reached.2, Bool.true_and]
      unfold Throttle.lastAfter LogEntry.stampMs
      by_cases isPassed :
          Throttle.passes (system.outputs id).minIntervalMs
            (system.outputs id).lastLog? record.timestampMs = true
      · have logged := and_iff_right reached.1 |>.mpr (logs.trans isPassed)
        rw [if_pos logged, if_pos logged, if_pos isPassed, if_pos isPassed]
        exact ⟨BacnetLogOutput.minIntervalMs_noted _ record, rfl,
          BacnetLogOutput.lastLog?_noted _ record⟩
      · have unlogged :
            ¬(id ∈ system.logger.outputs.ids ∧
              (system.outputs id).logs record = true) := by
          rw [logs]
          exact fun both => isPassed both.2
        rw [if_neg unlogged, if_neg unlogged, if_neg isPassed,
          if_neg isPassed]
        exact ⟨rfl, rfl, fun _ => rfl⟩
    · have unlogged :
          ¬(id ∈ system.logger.outputs.ids ∧
            (system.outputs id).logs record = true) := by
        rintro ⟨isRegistered, logs⟩
        exact reached ⟨isRegistered, (Bool.and_eq_true_iff.mp logs).1⟩
      rw [if_neg unlogged, if_neg unlogged, if_neg reached]
      exact ⟨rfl, rfl, fun _ => rfl⟩

end

/-! Whole runs of calls, and the time between two records. -/

/-- The records of a run that get as far as the interval of an output. -/
def offered
    (build : LogBuild)
    (id : OutputId)
    (system : LoggerSystem kMaxOutputs kMaxTagDepth)
    (events : List LoggerEvent) : List LogEntry :=
  (EventRun.trace (step build) (offered? build id) system
    events).reduceOption

theorem offered_cons
    (build : LogBuild)
    (id : OutputId)
    (system : LoggerSystem kMaxOutputs kMaxTagDepth)
    (event : LoggerEvent)
    (rest : List LoggerEvent) :
    system.offered build id (event :: rest) =
      (system.offered? build id event).toList ++
        (system.step build event).offered build id rest := by
  unfold offered
  rw [EventRun.trace]
  rcases system.offered? build id event with _ | entry
  · rfl
  · rfl

/--
While its interval stays as it is, an output logs exactly the records that it
is offered, in order, thinned out by the interval.
-/
theorem logged_eq_kept
    (build : LogBuild)
    (id : OutputId)
    (system : LoggerSystem kMaxOutputs kMaxTagDepth)
    {events : List LoggerEvent}
    (keeps :
      ∀ event ∈ events, ∀ intervalMs,
        event.call ≠ .setMinIntervalMs id intervalMs) :
    (EventRun.run (step build) system events).loggedBy id =
      system.loggedBy id ++
        Throttle.kept (system.outputs id).minIntervalMs LogEntry.stampMs
          (system.outputs id).lastLog?
          (system.offered build id events) := by
  induction events generalizing system with
  | nil =>
      exact (List.append_nil _).symm
  | cons event rest inductionHypothesis =>
      rw [List.forall_mem_cons] at keeps
      obtain ⟨interval, logged, last⟩ := step_output keeps.1
      have later := inductionHypothesis (system.step build event) keeps.2
      rw [EventRun.run_cons, later, logged, interval, offered_cons,
        Throttle.kept_toList, List.append_assoc]
      rcases eq_or_ne (system.outputs id).minIntervalMs 0 with
        isZero | positive
      · rw [isZero, Throttle.kept_zero, Throttle.kept_zero]
      · rw [last positive]

/-- A message that comes again too soon is logged once. -/
theorem logged_eq_kept_repeated :
    (EventRun.run (step {}) intervalSystem
        (repeatedLog [0, 50, 120])).loggedBy 0 =
      intervalSystem.loggedBy 0 ++
        Throttle.kept 100 LogEntry.stampMs none
          (intervalSystem.offered {} 0 (repeatedLog [0, 50, 120])) :=
  logged_eq_kept {} 0 intervalSystem (keeps_repeatedLog _ 0)

/-- The record of a call carries the reading of the clock. -/
def StampedAt
    (build : LogBuild)
    (system : LoggerSystem kMaxOutputs kMaxTagDepth)
    (event : LoggerEvent) : Prop :=
  ∀ record ∈ system.emitted? build event,
    record.timestampMs = WrappingClock.reading event.trueMs

instance
    (build : LogBuild)
    (system : LoggerSystem kMaxOutputs kMaxTagDepth)
    (event : LoggerEvent) :
    Decidable (system.StampedAt build event) :=
  inferInstanceAs (Decidable (∀ record ∈ system.emitted? build event, _))

theorem of_mem_offered?
    {build : LogBuild}
    {id : OutputId}
    {system : LoggerSystem kMaxOutputs kMaxTagDepth}
    {event : LoggerEvent}
    {entry : LogEntry}
    (isOffered : entry ∈ system.offered? build id event) :
    entry.trueMs = event.trueMs ∧
      entry.record ∈ system.emitted? build event := by
  obtain ⟨record, isEmitted, isEntry⟩ := Option.bind_eq_some_iff.mp isOffered
  split at isEntry
  · cases isEntry
    exact ⟨rfl, isEmitted⟩
  · cases isEntry

/-- What is offered in a run is stamped by the clock, in order of time. -/
theorem offered_inTime
    {build : LogBuild}
    {id : OutputId}
    {system : LoggerSystem kMaxOutputs kMaxTagDepth}
    {events : List LoggerEvent}
    (inOrder :
      events.Pairwise fun earlier later => earlier.trueMs ≤ later.trueMs)
    (stamped :
      EventRun.Along (step build) (StampedAt build) system events) :
    (∀ entry ∈ system.offered build id events,
        entry.stampMs = WrappingClock.reading entry.trueMs ∧
          ∃ event ∈ events, entry.trueMs = event.trueMs) ∧
      (system.offered build id events).Pairwise fun earlier later =>
        earlier.trueMs ≤ later.trueMs := by
  induction events generalizing system with
  | nil =>
      refine ⟨?_, List.Pairwise.nil⟩
      intro entry isOffered
      cases isOffered
  | cons event rest inductionHypothesis =>
      rw [List.pairwise_cons] at inOrder
      obtain ⟨later, ordered⟩ := inductionHypothesis inOrder.2 stamped.2
      rw [offered_cons]
      refine ⟨?_, List.pairwise_append.mpr ⟨?_, ordered, ?_⟩⟩
      · intro entry isOffered
        rcases List.mem_append.mp isOffered with isHere | isLater
        · obtain ⟨sameTime, isEmitted⟩ :=
            of_mem_offered? (Option.mem_toList.mp isHere)
          refine ⟨?_, event, List.mem_cons_self, sameTime⟩
          rw [sameTime]
          exact stamped.1 entry.record isEmitted
        · obtain ⟨isStamped, other, isOther, sameTime⟩ := later entry isLater
          exact ⟨isStamped, other, List.mem_cons_of_mem event isOther,
            sameTime⟩
      · rcases system.offered? build id event with _ | entry
        · exact List.Pairwise.nil
        · exact List.pairwise_singleton _ entry
      · intro entry isHere other isLater
        obtain ⟨_, source, isSource, sameTime⟩ := later other isLater
        rw [(of_mem_offered? (Option.mem_toList.mp isHere)).1, sameTime]
        exact inOrder.1 source isSource

/--
In any window of true time an output with an interval logs no more records
than fit into it at that distance, although the clock wraps.
-/
theorem logged_rate
    (build : LogBuild)
    (id : OutputId)
    {system : LoggerSystem kMaxOutputs kMaxTagDepth}
    (nothing : system.loggedBy id = [])
    {events : List LoggerEvent}
    (keeps :
      ∀ event ∈ events, ∀ intervalMs,
        event.call ≠ .setMinIntervalMs id intervalMs)
    (inOrder :
      events.Pairwise fun earlier later => earlier.trueMs ≤ later.trueMs)
    (stamped : EventRun.Along (step build) (StampedAt build) system events)
    (first window : Nat) :
    (((EventRun.run (step build) system events).loggedBy id).filter
        fun entry =>
          decide (first ≤ entry.trueMs ∧
            entry.trueMs ≤ first + window)).length *
        (system.outputs id).minIntervalMs.toNat ≤
      window + (system.outputs id).minIntervalMs.toNat := by
  obtain ⟨isStamped, ordered⟩ := @offered_inTime _ _ _ id _ _ inOrder stamped
  rw [logged_eq_kept build id system keeps, nothing, List.nil_append]
  exact Throttle.length_window_mul_le
    (fun entry isOffered => (isStamped entry isOffered).1) ordered _ first
    window

/-- The message is logged while the clock wraps. -/
theorem logged_rate_wrapping :
    (((EventRun.run (step {}) clockedSystem
          (repeatedLog [4294967200, 4294967250, 4294967310])).loggedBy
            0).filter fun entry =>
        decide (4294967200 ≤ entry.trueMs ∧
          entry.trueMs ≤ 4294967200 + 110)).length * 100 ≤ 110 + 100 := by
  refine logged_rate {} 0 rfl (keeps_repeatedLog _ 0) (by decide) ?_
    4294967200 110
  exact ⟨by decide +kernel, by decide +kernel, by decide +kernel, trivial⟩

/-- An application that gives the logger neither a clock nor a record. -/
def LeavesUnclocked (event : LoggerEvent) : Prop :=
  event.call ≠ .setClock true ∧ ∀ record, event.call ≠ .emit record

theorem hasClock_step
    (build : LogBuild)
    {system : LoggerSystem kMaxOutputs kMaxTagDepth}
    {event : LoggerEvent}
    (unclocked : system.logger.hasClock = false)
    (leaves : LeavesUnclocked event) :
    (system.step build event).logger.hasClock = false := by
  rcases isEmitted : system.emitted? build event with _ | record
  · rcases event with ⟨trueMs, call⟩
    cases call with
    | setClock hasClock =>
        cases hasClock with
        | false => rfl
        | true => exact absurd rfl leaves.1
    | emit record => exact absurd rfl (leaves.2 record)
    | log level tag text =>
        rcases text with _ | text
        · exact unclocked
        · unfold emitted? at isEmitted
          dsimp only at isEmitted
          split at isEmitted
          · cases isEmitted
          · rename_i refused
            have isSame :
                system.step build ⟨trueMs, .log level tag (some text)⟩ =
                  system :=
              if_neg refused
            rw [isSame]
            exact unclocked
    | _ => exact unclocked
  · rw [step_of_emitted isEmitted]
    exact List.foldlRecOn
      (motive := fun current : LoggerSystem kMaxOutputs kMaxTagDepth =>
        current.logger.hasClock = false)
      _ _ unclocked fun _ same _ _ => same

/-- Without a clock what is offered carries no time. -/
theorem offered_unclocked
    {build : LogBuild}
    {id : OutputId}
    {system : LoggerSystem kMaxOutputs kMaxTagDepth}
    (unclocked : system.logger.hasClock = false)
    {events : List LoggerEvent}
    (leaves : ∀ event ∈ events, LeavesUnclocked event) :
    ∀ entry ∈ system.offered build id events, entry.stampMs = 0 := by
  induction events generalizing system with
  | nil =>
      intro entry isOffered
      cases isOffered
  | cons event rest inductionHypothesis =>
      rw [List.forall_mem_cons] at leaves
      intro entry isOffered
      rw [offered_cons] at isOffered
      rcases List.mem_append.mp isOffered with isHere | isLater
      · have isEmitted := (of_mem_offered? (Option.mem_toList.mp isHere)).2
        unfold emitted? at isEmitted
        split at isEmitted
        · rename_i record isEmit
          exact absurd isEmit (leaves.1.2 record)
        · split at isEmitted
          · obtain ⟨text, _, isRecord⟩ := Option.map_eq_some_iff.mp isEmitted
            unfold LogEntry.stampMs
            rw [← isRecord, BacnetLogger.recordOf, unclocked]
            rfl
          · cases isEmitted
        · cases isEmitted
      · exact inductionHypothesis
          (hasClock_step build unclocked leaves.1) leaves.2 entry isLater

/-- Without a clock an output with an interval logs one record at most. -/
theorem logged_unclocked
    (build : LogBuild)
    (id : OutputId)
    {system : LoggerSystem kMaxOutputs kMaxTagDepth}
    (nothing : system.loggedBy id = [])
    (positive : (system.outputs id).minIntervalMs ≠ 0)
    (unclocked : system.logger.hasClock = false)
    {events : List LoggerEvent}
    (keeps :
      ∀ event ∈ events, ∀ intervalMs,
        event.call ≠ .setMinIntervalMs id intervalMs)
    (leaves : ∀ event ∈ events, LeavesUnclocked event) :
    ((EventRun.run (step build) system events).loggedBy id).length ≤ 1 := by
  rw [logged_eq_kept build id system keeps, nothing, List.nil_append]
  exact Throttle.length_le_one_of_constant positive
    (offered_unclocked unclocked leaves) _

/-- The message is logged once, however late it comes again. -/
theorem logged_unclocked_repeated :
    ((EventRun.run (step {}) intervalSystem
      (repeatedLog [0, 5000, 10000])).loggedBy 0).length ≤ 1 := by
  refine logged_unclocked {} 0 rfl (by decide) rfl (keeps_repeatedLog _ 0) ?_
  intro event isEvent
  obtain ⟨trueMs, _, rfl⟩ := List.mem_map.mp isEvent
  refine ⟨?_, fun record => ?_⟩
  · intro isSet
    cases isSet
  · intro isEmit
    cases isEmit

end LoggerSystem

end BacnetStack
