import BacnetStack.ClientRuns
import BacnetStack.RoundRobin

namespace BacnetStack

/-!
# Turns of the handles of an array

A poll of an array starts work for at most one handle, and the next poll looks
behind it first.  Nothing else moves the place where it looks, so the polls of
an array serve its handles in rotation, whatever else the client does in
between.
-/

namespace ClientSystem

variable {τ : Type}

/-- Where the next poll of an array of a session begins to look. -/
def turns (system : ClientSystem τ) : SessionId → Nat :=
  fun id => (system.sessions id).roundRobinSubscriptionIndex

@[simp] theorem roundRobin_sessions
    (system : ClientSystem τ)
    (id : SessionId) :
    (system.sessions id).roundRobinSubscriptionIndex = system.turns id :=
  rfl

/-- No array of the session is polled. -/
def turnGuard (τ : Type) (id : SessionId) : NotificationGuard τ where
  take _ _ _ := True
  answer _ := True
  turns other := other ≠ id

/-- Only a poll of an array moves the turn of its session. -/
theorem keepsTurn (id : SessionId) :
    SessionRule (turnGuard τ id) fun other before after =>
      other = id →
        after.roundRobinSubscriptionIndex =
          before.roundRobinSubscriptionIndex where
  trans early late own := (late own).trans (early own)
  quiet quiet _ := quiet.turn
  turn _ _ _ another own := absurd own another
  slot _ _ _ _ := rfl
  pending _ _ _ _ := rfl

theorem Steps.turns_eq
    {runtime : ClientRuntime τ}
    {id : SessionId}
    {system after : ClientSystem τ}
    (steps : Steps runtime (turnGuard τ id) system after) :
    after.turns id = system.turns id :=
  (keepsTurn id).steps steps id rfl

theorem turn_setSession_self
    (system : ClientSystem τ)
    (id : SessionId)
    (session : BacnetDeviceSession) :
    (system.setSession id session).turns id =
      session.roundRobinSubscriptionIndex :=
  congrArg BacnetDeviceSession.roundRobinSubscriptionIndex
    (Function.update_self ..)

/-- The poll of a session that comes before the look at its array. -/
theorem turn_beginPoll
    {runtime : ClientRuntime τ}
    {callback : SubscriptionCallback τ}
    {id : SessionId}
    (callbacks : CallbackSteps runtime (turnGuard τ id) callback)
    (system : ClientSystem τ)
    (nowMs : UInt32) :
    ((system.resolveNow runtime nowMs).2.beginPoll runtime callback id
      (system.resolveNow runtime nowMs).1).turns id = system.turns id := by
  have resolved : Steps runtime (turnGuard τ id) system
      (system.resolveNow runtime nowMs).2 :=
    steps_resolveNow system nowMs
  have polled : Steps runtime (turnGuard τ id)
      (system.resolveNow runtime nowMs).2
      ((system.resolveNow runtime nowMs).2.beginPoll runtime callback id
        (system.resolveNow runtime nowMs).1) :=
    steps_beginPoll callbacks (fun _ _ => trivial) trivial _
  exact (resolved.trans polled).turns_eq

/-- A place of the array where a poll of the session would start work. -/
def waitsAt
    (system : ClientSystem τ)
    (id : SessionId)
    (handles : List SubscriptionId)
    (nowMs : UInt32)
    (place : Nat) : Bool :=
  handles[place]?.any fun handle =>
    decide ((system.subscriptions handle).session = some id) &&
      (system.subscriptions handle).isDue nowMs

/-- Where a poll of an array of this length begins to look. -/
def startPlace (turn size : Nat) : Nat :=
  if size ≤ turn then 0 else turn

section

variable (runtime : ClientRuntime τ) (callback : SubscriptionCallback τ)
  (system : ClientSystem τ) (id : SessionId)
  (handles : List SubscriptionId) (nowMs : UInt32)

/-- Who waits when an array is polled, unless the session is at work. -/
def arrayRound? : Option (Nat → Bool) :=
  let (nowMs, system) := system.resolveNow runtime nowMs
  let polled := system.beginPoll runtime callback id nowMs
  if (polled.sessions id).inFlightSubscription.isSome ||
      (polled.sessions id).inFlightPropertyRead.isSome ||
      handles.isEmpty then
    none
  else
    some (polled.waitsAt id handles nowMs)

/-- The place whose turn it is when an array is polled. -/
def arrayTurn? : Option Nat :=
  let (nowMs, system) := system.resolveNow runtime nowMs
  let polled := system.beginPoll runtime callback id nowMs
  let session := polled.sessions id
  if session.inFlightSubscription.isSome ||
      session.inFlightPropertyRead.isSome || handles.isEmpty then
    none
  else
    ((pollOrder (startPlace session.roundRobinSubscriptionIndex
      handles.length) handles).find? fun (_, handle) =>
        decide ((polled.subscriptions handle).session = some id) &&
          (polled.subscriptions handle).isDue nowMs).map Prod.fst

end

/-- The search of a poll is a round of the rotation. -/
theorem find?_pollOrder
    (start : Nat)
    (handles : List SubscriptionId)
    (isWaiting : SubscriptionId → Bool) :
    (pollOrder start handles).find? (fun entry => isWaiting entry.2) =
      (RoundRobin.next? handles.length start fun place =>
        handles[place]?.any isWaiting).bind fun place =>
          handles[place]?.map (place, ·) := by
  have ordered :
      pollOrder start handles =
        (RoundRobin.order handles.length start).filterMap fun place =>
          handles[place]?.map (place, ·) := by
    rw [RoundRobin.order, List.filterMap_map]
    rfl
  rw [ordered, List.find?_filterMap, RoundRobin.next?]
  simp only [Option.any_map]

section

variable {runtime : ClientRuntime τ} {callback : SubscriptionCallback τ}
  {id : SessionId} (system : ClientSystem τ) (handles : List SubscriptionId)
  (nowMs : UInt32)

theorem startPlace_lt
    (turn : Nat)
    {size : Nat}
    (positive : 0 < size) :
    startPlace turn size < size := by
  unfold startPlace
  split
  · exact positive
  · rename_i inside
    exact Nat.not_le.mp inside

/-- The turns of an array go round among those that wait. -/
theorem arrayTurn?_eq
    (callbacks : CallbackSteps runtime (turnGuard τ id) callback) :
    system.arrayTurn? runtime callback id handles nowMs =
      (system.arrayRound? runtime callback id handles nowMs).bind
        (RoundRobin.next? handles.length
          (startPlace (system.turns id) handles.length)) := by
  unfold arrayTurn? arrayRound?
  dsimp only
  split
  · rfl
  · rename_i atRest
    rw [Bool.or_eq_true, not_or, List.isEmpty_iff] at atRest
    have isStart :=
      startPlace_lt (system.turns id) (List.length_pos_iff.mpr atRest.2)
    rw [roundRobin_sessions, turn_beginPoll callbacks]
    generalize (system.resolveNow runtime nowMs).2.beginPoll runtime callback
      id (system.resolveNow runtime nowMs).1 = polled
    have found := find?_pollOrder
      (startPlace (system.turns id) handles.length) handles fun handle =>
        decide ((polled.subscriptions handle).session = some id) &&
          (polled.subscriptions handle).isDue
            (system.resolveNow runtime nowMs).1
    rw [found, Option.bind_some]
    change _ = RoundRobin.next? handles.length _ _
    rcases Option.eq_none_or_eq_some
      (RoundRobin.next? handles.length
        (startPlace (system.turns id) handles.length)
        (polled.waitsAt id handles
          (system.resolveNow runtime nowMs).1)) with noneWaits | ⟨place, isNext⟩
    · have noneFound := noneWaits
      unfold waitsAt at noneFound
      rw [noneFound, noneWaits]
      rfl
    · have isFound := isNext
      unfold waitsAt at isFound
      have isPlace := (RoundRobin.next?_eq_some isStart isNext).2.1
      rw [isFound, isNext, Option.bind_some,
        List.getElem?_eq_getElem isPlace]
      rfl

theorem startPlace_of_lt
    {turn size : Nat}
    (inside : turn < size) :
    startPlace turn size = turn :=
  if_neg (Nat.not_le.mpr inside)

/-- Where the next poll of the array begins to look. -/
theorem turn_pollArray
    (callbacks : CallbackSteps runtime (turnGuard τ id) callback) :
    startPlace
        ((system.pollArray runtime callback id handles nowMs).turns id)
        handles.length =
      ((system.arrayTurn? runtime callback id handles nowMs).map fun place =>
        (place + 1) % handles.length).getD
          (startPlace (system.turns id) handles.length) := by
  have begun := turn_beginPoll callbacks system nowMs
  unfold pollArray pollArrayAt arrayTurn?
  dsimp only
  generalize (system.resolveNow runtime nowMs).1 = now at begun ⊢
  generalize (system.resolveNow runtime nowMs).2.beginPoll runtime callback
    id now = polled at begun ⊢
  split
  · rw [begun]
    rfl
  · rename_i atRest
    rw [Bool.or_eq_true, Bool.or_eq_true, not_or, not_or, List.isEmpty_iff]
      at atRest
    have positive : 0 < handles.length := List.length_pos_iff.mpr atRest.2
    have isStart := startPlace_lt (system.turns id) positive
    rw [roundRobin_sessions, begun]
    split
    all_goals
      rename_i isFound
      have found := congrArg (Option.map Prod.fst) isFound
    · refine Eq.trans ?_ (congrArg (fun turn =>
        (Option.map (fun place => (place + 1) % handles.length) turn).getD
          (startPlace (system.turns id) handles.length)) found).symm
      rw [turn_setSession_self]
      exact startPlace_of_lt isStart
    · rename_i index handle
      have isDue := List.find?_some isFound
      have own : (polled.subscriptions handle).session = some id :=
        of_decide_eq_true (Bool.and_eq_true_iff.mp isDue).1
      have free : (polled.sessions id).inFlightSubscription = none :=
        Option.not_isSome_iff_eq_none.mp atRest.1.1
      have started (turn : Nat) :
          Steps runtime (turnGuard τ id)
            (polled.setSession id
              { polled.sessions id with roundRobinSubscriptionIndex := turn })
            ((polled.setSession id
              { polled.sessions id with
                roundRobinSubscriptionIndex := turn }).startSubscriptionWork
                  runtime callback id handle now) := by
        apply steps_startSubscriptionWork callbacks
        · exact own
        · refine .inl (.inl ?_)
          rw [sessions_setSession_self]
          exact free
      refine Eq.trans ?_ (congrArg (fun turn =>
        (Option.map (fun place => (place + 1) % handles.length) turn).getD
          (startPlace (system.turns id) handles.length)) found).symm
      rw [setSession_setSession]
      rw [(started _).turns_eq, turn_setSession_self]
      exact startPlace_of_lt (Nat.mod_lt _ positive)

end

end ClientSystem

/-- The call polls an array of the session. -/
def ClientCall.pollsArrayOf (id : SessionId) : ClientCall → Bool
  | .pollArray other _ _ => other == id
  | _ => false

/-- No callback polls an array of the session. -/
def ClientApplication.PollsNoArray {τ : Type}
    (application : ClientApplication τ)
    (id : SessionId) : Prop :=
  ∀ handle notification system,
    ∀ call ∈ application handle notification system,
      call.pollsArrayOf id = false

/-- The step polls no array of the session but this one. -/
def ClientStep.PollsOnly
    (id : SessionId)
    (handles : List SubscriptionId)
    (event : ClientStep) : Prop :=
  ∀ polled nowMs,
    event = .call (.pollArray id polled nowMs) → polled = handles

namespace ClientSystem

variable {τ : Type}

/-! Turns over whole runs. -/

section

variable (runtime : ClientRuntime τ) (callback : SubscriptionCallback τ)
  (id : SessionId) (handles : List SubscriptionId)

/-- Who waits at a step, if it is a poll of the array that is not busy. -/
def roundOf?
    (system : ClientSystem τ) : ClientStep → Option (Nat → Bool)
  | .call (.pollArray other _ nowMs) =>
      if other = id then
        system.arrayRound? runtime callback id handles nowMs
      else
        none
  | _ => none

/-- The place whose turn it is at a step. -/
def turnOf?
    (system : ClientSystem τ) : ClientStep → Option Nat
  | .call (.pollArray other _ nowMs) =>
      if other = id then
        system.arrayTurn? runtime callback id handles nowMs
      else
        none
  | _ => none

/-- Who waits at the polls of a run. -/
def rounds
    (system : ClientSystem τ)
    (steps : List ClientStep) : List (Nat → Bool) :=
  (EventRun.trace (step runtime callback)
    (roundOf? runtime callback id handles) system steps).reduceOption

/-- The places whose turn it is at the polls of a run, in order. -/
def turnsTaken
    (system : ClientSystem τ)
    (steps : List ClientStep) : List Nat :=
  (EventRun.trace (step runtime callback)
    (turnOf? runtime callback id handles) system steps).reduceOption

end

/-- A call that polls no array of the session. -/
theorem callAllowed_of_pollsArrayOf
    {runtime : ClientRuntime τ}
    {callback : SubscriptionCallback τ}
    {id : SessionId}
    (system : ClientSystem τ)
    {call : ClientCall}
    (polls : call.pollsArrayOf id = false) :
    CallAllowed runtime (turnGuard τ id) callback system call where
  polls _ _ := trivial
  turns other handles nowMs isPoll := by
    subst isPoll
    exact ne_of_beq_false polls
  answers _ _ := trivial
  takes _ _ _ _ _ _ := trivial

theorem turn_step
    {runtime : ClientRuntime τ}
    {callback : SubscriptionCallback τ}
    {id : SessionId}
    (callbacks : CallbackSteps runtime (turnGuard τ id) callback)
    (system : ClientSystem τ)
    {event : ClientStep}
    (polls : ∀ call, event = .call call → call.pollsArrayOf id = false) :
    (system.step runtime callback event).turns id = system.turns id :=
  (keepsTurn id).step callbacks system
    (fun call isCall => callAllowed_of_pollsArrayOf system (polls call isCall))
    id rfl

/-- Callbacks that poll no array of the session leave its turn alone. -/
theorem callbackSteps_silent
    (runtime : ClientRuntime τ)
    {application : ClientApplication τ}
    {id : SessionId}
    (silent : application.PollsNoArray id)
    (depth : Nat) :
    CallbackSteps runtime (turnGuard τ id)
      (application.callback runtime depth) := by
  induction depth with
  | zero => exact callbackSteps_of_calls fun _ _ system => .refl system
  | succ depth inductionHypothesis =>
      apply callbackSteps_of_calls
      intro handle notification system
      have isSilent := silent handle notification system
      generalize application handle notification system = calls at isSilent ⊢
      induction calls generalizing system with
      | nil => exact .refl system
      | cons call rest following =>
          have made := steps_call inductionHypothesis
            (callAllowed_of_pollsArrayOf system
              (isSilent call List.mem_cons_self))
          exact made.trans (following _ fun other isOther =>
            isSilent other (List.mem_cons_of_mem _ isOther))

section

variable (runtime : ClientRuntime τ) {callback : SubscriptionCallback τ}
  {id : SessionId} {handles : List SubscriptionId}

theorem turnsTaken_cons
    (system : ClientSystem τ)
    (event : ClientStep)
    (rest : List ClientStep) :
    system.turnsTaken runtime callback id handles (event :: rest) =
      (system.turnOf? runtime callback id handles event).toList ++
        (system.step runtime callback event).turnsTaken runtime callback id
          handles rest := by
  unfold turnsTaken
  rw [EventRun.trace]
  rcases system.turnOf? runtime callback id handles event with _ | place
  · rfl
  · rfl

theorem rounds_cons
    (system : ClientSystem τ)
    (event : ClientStep)
    (rest : List ClientStep) :
    system.rounds runtime callback id handles (event :: rest) =
      (system.roundOf? runtime callback id handles event).toList ++
        (system.step runtime callback event).rounds runtime callback id
          handles rest := by
  unfold rounds
  rw [EventRun.trace]
  rcases system.roundOf? runtime callback id handles event with _ | waits
  · rfl
  · rfl

variable (callbacks : CallbackSteps runtime (turnGuard τ id) callback)

include callbacks

theorem turnOf?_eq
    (system : ClientSystem τ)
    (event : ClientStep) :
    system.turnOf? runtime callback id handles event =
      (system.roundOf? runtime callback id handles event).bind
        (RoundRobin.next? handles.length
          (startPlace (system.turns id) handles.length)) := by
  cases event with
  | call call =>
      cases call with
      | pollArray other polled nowMs =>
          unfold turnOf? roundOf?
          dsimp only
          split
          · exact arrayTurn?_eq system handles nowMs callbacks
          · rfl
      | _ => rfl
  | _ => rfl

/-- The next poll begins to look behind the place whose turn it was. -/
theorem startPlace_step
    (system : ClientSystem τ)
    {event : ClientStep}
    (only : event.PollsOnly id handles) :
    startPlace ((system.step runtime callback event).turns id)
        handles.length =
      ((system.turnOf? runtime callback id handles event).map fun place =>
        (place + 1) % handles.length).getD
          (startPlace (system.turns id) handles.length) := by
  have atRest
      (noPoll :
        ∀ call, event = .call call → call.pollsArrayOf id = false) :
      startPlace ((system.step runtime callback event).turns id)
          handles.length =
        startPlace (system.turns id) handles.length :=
    congrArg (startPlace · handles.length) (turn_step callbacks system noPoll)
  cases event with
  | call call =>
      cases call with
      | pollArray other polled nowMs =>
          by_cases own : other = id
          · subst own
            obtain rfl : polled = handles := only polled nowMs rfl
            have isTurn :
                system.turnOf? runtime callback other polled
                    (.call (.pollArray other polled nowMs)) =
                  system.arrayTurn? runtime callback other polled nowMs :=
              if_pos rfl
            rw [isTurn]
            exact turn_pollArray system polled nowMs callbacks
          · have noTurn :
                system.turnOf? runtime callback id handles
                    (.call (.pollArray other polled nowMs)) = none :=
              if_neg own
            rw [noTurn]
            refine atRest fun call isCall => ?_
            cases isCall
            exact beq_false_of_ne own
      | _ =>
          refine atRest fun call isCall => ?_
          cases isCall
          rfl
  | _ =>
      refine atRest fun call isCall => ?_
      cases isCall

/-- The turns of a run are those of a rotation that sees the same rounds. -/
theorem turnsTaken_eq_served
    (system : ClientSystem τ)
    {steps : List ClientStep}
    (only : ∀ event ∈ steps, event.PollsOnly id handles) :
    system.turnsTaken runtime callback id handles steps =
      RoundRobin.served handles.length
        (startPlace (system.turns id) handles.length)
        (system.rounds runtime callback id handles steps) := by
  induction steps generalizing system with
  | nil =>
      rfl
  | cons event rest inductionHypothesis =>
      have later := inductionHypothesis (system.step runtime callback event)
        fun other isOther => only other (List.mem_cons_of_mem _ isOther)
      rw [turnsTaken_cons, rounds_cons, RoundRobin.served_toList, later,
        startPlace_step runtime callbacks system (only event List.mem_cons_self),
        turnOf?_eq runtime callbacks]

end

/--
While a handle of an array waits for its turn, no other handle has two turns,
and there are fewer polls with a turn than handles.
-/
theorem pollArray_inRotation
    (runtime : ClientRuntime τ)
    {application : ClientApplication τ}
    {id : SessionId}
    (silent : application.PollsNoArray id)
    (depth : Nat)
    (system : ClientSystem τ)
    {handles : List SubscriptionId}
    {steps : List ClientStep}
    (only : ∀ event ∈ steps, event.PollsOnly id handles)
    {place : Nat}
    (isPlace : place < handles.length)
    (waits :
      ∀ round ∈ system.rounds runtime (application.callback runtime depth) id
          handles steps,
        round place = true)
    (inVain :
      place ∉ system.turnsTaken runtime (application.callback runtime depth)
        id handles steps) :
    (system.turnsTaken runtime (application.callback runtime depth) id handles
        steps).Nodup ∧
      (system.rounds runtime (application.callback runtime depth) id handles
        steps).length < handles.length := by
  have callbacks := callbackSteps_silent runtime silent depth
  have isStart :=
    startPlace_lt (system.turns id) (Nat.zero_lt_of_lt isPlace)
  rw [turnsTaken_eq_served runtime callbacks system only] at inVain ⊢
  exact ⟨RoundRobin.nodup_served isPlace isStart waits inVain,
    RoundRobin.length_lt_of_inVain isPlace isStart waits inVain⟩

/-- Three handles of an array. -/
def threeHandles : List ClientStep :=
  .startClient true ::
    [0, 1, 2].map fun handle =>
      .call (.subscribe 0 handle { type := 0, instance_ := 1 } .presentValue
        kBacnetNoArrayIndex { preferCov := false } false 0)

/-- Their reads are not answered. -/
def turnSteps (times : List UInt32) : List ClientStep :=
  threeHandles ++
    times.map fun nowMs => .call (.pollArray 0 [0, 1, 2] nowMs)

theorem pollsOnly_turnSteps
    (times : List UInt32) :
    ∀ event ∈ turnSteps times, event.PollsOnly 0 [0, 1, 2] := by
  intro event isEvent polled nowMs isPoll
  subst isPoll
  rcases List.mem_append.mp isEvent with isSetup | isPoll
  · simp [threeHandles] at isSetup
  · obtain ⟨_, _, same⟩ := List.mem_map.mp isPoll
    cases same
    rfl

/-- The third one waits while the other two have one turn each. -/
theorem pollArray_inRotation_unanswered :
    ((scriptedSystem []).turnsTaken scriptedRuntime
        ((ClientApplication.observer _).callback scriptedRuntime 1) 0
        [0, 1, 2] (turnSteps [0, 1, 5000])).Nodup ∧
      ((scriptedSystem []).rounds scriptedRuntime
        ((ClientApplication.observer _).callback scriptedRuntime 1) 0
        [0, 1, 2] (turnSteps [0, 1, 5000])).length < 3 := by
  refine @pollArray_inRotation _ scriptedRuntime (ClientApplication.observer _)
    0 ?_ 1 (scriptedSystem []) [0, 1, 2] _ (pollsOnly_turnSteps _) 2
    (by decide) (by decide +kernel) (by decide +kernel)
  intro handle notification system call isCall
  cases isCall

/-- A poll of the session before it looks at the handles of an array. -/
def arrayStage
    (runtime : ClientRuntime τ)
    (callback : SubscriptionCallback τ)
    (system : ClientSystem τ)
    (id : SessionId)
    (nowMs : UInt32) : ClientSystem τ :=
  (system.resolveNow runtime nowMs).2.beginPoll runtime callback id
    (system.resolveNow runtime nowMs).1

/-- A request for a handle can be sent: nothing scans, the client sends. -/
structure SendsRequests
    (runtime : ClientRuntime τ)
    (system : ClientSystem τ)
    (id : SessionId)
    (handle : SubscriptionId) : Prop where
  noScan : (system.sessions id).inFlightObjectListScan = none
  read :
    (system.client.sendReadProperty runtime (system.sessions id).endpoint
      (system.subscriptions handle).request
      (system.sessions id).nextInvokeId).1 = true
  subscribe :
    (system.sendSubscription runtime (system.sessions id).endpoint
      { (system.subscriptions handle).assignProcessId with
        covRejectReason := 0xFF }
      (system.sessions id).nextInvokeId).1 = true

/-- A due handle of an idle session is in flight after its turn. -/
theorem inFlight_startSubscriptionWork
    {runtime : ClientRuntime τ}
    (callback : SubscriptionCallback τ)
    {system : ClientSystem τ}
    {id : SessionId}
    {handle : SubscriptionId}
    {nowMs : UInt32}
    (noRead : (system.sessions id).inFlightPropertyRead = none)
    (isDue : (system.subscriptions handle).isDue nowMs = true)
    (sends : system.SendsRequests runtime id handle) :
    ((system.startSubscriptionWork runtime callback id handle
      nowMs).sessions id).inFlightSubscription = some handle := by
  have noJob : (system.sessions id).jobInFlight = false := by
    unfold BacnetDeviceSession.jobInFlight
    rw [noRead, sends.noScan]
    rfl
  have slot (current : ClientSystem τ)
      (subscription : BacnetPropertySubscription) :
      ((current.setInFlight id handle subscription).sessions
        id).inFlightSubscription = some handle := by
    unfold setInFlight
    rw [sessions_setSession_self]
  unfold startSubscriptionWork
  cases isPossible :
      covStartPossible (system.sessions id) (system.subscriptions handle)
        nowMs with
  | true =>
      have isSent := sends.subscribe
      unfold tryStartCovSubscription allocateInvokeId
      rw [if_pos isPossible]
      dsimp only
      rw [sessions_setSession_self]
      split
      · rename_i started
        split at started
        · cases started
          exact slot ..
        · cases started
      · rename_i refused
        split at refused
        · cases refused
        · rename_i unsent
          exact absurd isSent unsent
  | false =>
      have isSent := sends.read
      unfold tryStartCovSubscription
      rw [if_neg (Bool.eq_false_iff.mp isPossible)]
      dsimp only
      unfold tryStartSubscriptionPoll allocateInvokeId
      dsimp only
      rw [isDue, noJob, if_neg (by decide), sessions_setSession_self]
      split
      · exact slot ..
      · rename_i unsent
        exact absurd isSent unsent

theorem mem_pollOrder
    {start : Nat}
    {handles : List SubscriptionId}
    {entry : Nat × SubscriptionId}
    (isEntry : entry ∈ pollOrder start handles) :
    handles[entry.1]? = some entry.2 := by
  obtain ⟨step, _, isPlace⟩ := List.mem_filterMap.mp isEntry
  obtain ⟨handle, isHandle, rfl⟩ := Option.map_eq_some_iff.mp isPlace
  exact isHandle

/-- A handle whose requests can be sent is in flight after its turn. -/
theorem inFlight_of_turn
    {runtime : ClientRuntime τ}
    {callback : SubscriptionCallback τ}
    {system : ClientSystem τ}
    {id : SessionId}
    {handles : List SubscriptionId}
    {nowMs : UInt32}
    {place : Nat}
    (isTurn :
      system.arrayTurn? runtime callback id handles nowMs = some place)
    {handle : SubscriptionId}
    (isHandle : handles[place]? = some handle)
    (sends :
      (system.arrayStage runtime callback id nowMs).SendsRequests runtime id
        handle) :
    ((system.pollArray runtime callback id handles nowMs).sessions
      id).inFlightSubscription = some handle := by
  unfold arrayStage at sends
  unfold arrayTurn? at isTurn
  unfold pollArray pollArrayAt
  dsimp only at isTurn ⊢
  generalize (system.resolveNow runtime nowMs).1 = now
    at isTurn sends ⊢
  generalize (system.resolveNow runtime nowMs).2.beginPoll runtime callback
    id now = polled at isTurn sends ⊢
  split at isTurn
  · cases isTurn
  · rename_i atRest
    rw [if_neg atRest]
    rw [Bool.or_eq_true, Bool.or_eq_true, not_or, not_or] at atRest
    obtain ⟨⟨index, other⟩, isFound, rfl⟩ :=
      Option.map_eq_some_iff.mp isTurn
    have isOther := mem_pollOrder (List.mem_of_find?_eq_some isFound)
    obtain rfl : other = handle :=
      Option.some.inj (isOther.symm.trans isHandle)
    have isChosen := List.find?_some isFound
    have isDue := (Bool.and_eq_true_iff.mp isChosen).2
    split
    · rename_i noneFound
      exact absurd (noneFound.symm.trans isFound) (by simp)
    · rename_i place found isFirst
      obtain ⟨rfl, rfl⟩ : place = index ∧ found = other :=
        Prod.mk.inj (Option.some.inj (isFirst.symm.trans isFound))
      refine inFlight_startSubscriptionWork callback ?_ isDue ?_
      · rw [sessions_setSession_self]
        exact Option.not_isSome_iff_eq_none.mp atRest.1.2
      · refine ⟨?_, ?_, ?_⟩
        · rw [sessions_setSession_self]
          exact sends.noScan
        · rw [sessions_setSession_self]
          exact sends.read
        · rw [sessions_setSession_self]
          exact sends.subscribe

/-- A turn of a run is the turn at one of its steps. -/
theorem exists_of_mem_turnsTaken
    {runtime : ClientRuntime τ}
    {callback : SubscriptionCallback τ}
    {id : SessionId}
    {handles : List SubscriptionId}
    {place : Nat}
    {system : ClientSystem τ}
    {steps : List ClientStep}
    (isTaken :
      place ∈ system.turnsTaken runtime callback id handles steps) :
    ∃ earlier event later,
      steps = earlier ++ event :: later ∧
        (system.run runtime callback earlier).turnOf? runtime callback id
          handles event = some place := by
  induction steps generalizing system with
  | nil =>
      cases isTaken
  | cons event rest inductionHypothesis =>
      rw [turnsTaken_cons, List.mem_append, Option.mem_toList] at isTaken
      rcases isTaken with isTurn | isLater
      · exact ⟨[], event, rest, rfl, isTurn⟩
      · obtain ⟨earlier, other, later, rfl, isTurn⟩ :=
          inductionHypothesis isLater
        exact ⟨event :: earlier, other, later, rfl, isTurn⟩

/--
A handle that waits at every poll of its array has a request in flight after
as many of them as the array has handles, those not counted that find the
session at work.
-/
theorem pollArray_serves
    (runtime : ClientRuntime τ)
    {application : ClientApplication τ}
    {id : SessionId}
    (silent : application.PollsNoArray id)
    (depth : Nat)
    (system : ClientSystem τ)
    {handles : List SubscriptionId}
    {steps : List ClientStep}
    (only : ∀ event ∈ steps, event.PollsOnly id handles)
    {place : Nat}
    {handle : SubscriptionId}
    (isHandle : handles[place]? = some handle)
    (waits :
      ∀ round ∈ system.rounds runtime (application.callback runtime depth) id
          handles steps,
        round place = true)
    (sends :
      EventRun.Along (step runtime (application.callback runtime depth))
        (fun system event =>
          ∀ nowMs, event = .call (.pollArray id handles nowMs) →
            (system.arrayStage runtime (application.callback runtime depth) id
              nowMs).SendsRequests runtime id handle)
        system steps)
    (enough :
      handles.length ≤
        (system.rounds runtime (application.callback runtime depth) id handles
          steps).length) :
    ∃ earlier event later,
      steps = earlier ++ event :: later ∧
        ((system.run runtime (application.callback runtime depth)
          (earlier ++ [event])).sessions id).inFlightSubscription =
            some handle := by
  have isPlace : place < handles.length :=
    (List.getElem?_eq_some_iff.mp isHandle).1
  have isTaken :
      place ∈ system.turnsTaken runtime (application.callback runtime depth)
        id handles steps := by
    by_contra inVain
    have callbacks := callbackSteps_silent runtime silent depth
    rw [turnsTaken_eq_served runtime callbacks system only] at inVain
    exact Nat.not_lt.mpr enough
      (RoundRobin.length_lt_of_inVain isPlace
        (startPlace_lt _ (Nat.zero_lt_of_lt isPlace)) waits inVain)
  obtain ⟨earlier, event, later, rfl, isTurn⟩ :=
    exists_of_mem_turnsTaken isTaken
  refine ⟨earlier, event, later, rfl, ?_⟩
  rw [EventRun.along_append] at sends
  have sendsHere := sends.2.1
  rw [run, EventRun.run_concat]
  cases event with
  | call call =>
      cases call with
      | pollArray other polled nowMs =>
          unfold turnOf? at isTurn
          dsimp only at isTurn
          split at isTurn
          · rename_i own
            subst own
            obtain rfl : polled = handles :=
              only _ (List.mem_append_right _ List.mem_cons_self) polled nowMs
                rfl
            exact inFlight_of_turn isTurn isHandle (sendsHere nowMs rfl)
          · cases isTurn
      | _ => cases isTurn
  | _ => cases isTurn

/-- The third one is read in the third poll that does not wait. -/
theorem pollArray_serves_third :
    ∃ earlier event later,
      turnSteps [0, 1, 5000, 10000] = earlier ++ event :: later ∧
        (((scriptedSystem []).run scriptedRuntime
          ((ClientApplication.observer _).callback scriptedRuntime 1)
          (earlier ++ [event])).sessions 0).inFlightSubscription =
            some 2 := by
  refine @pollArray_serves _ scriptedRuntime (ClientApplication.observer _)
    0 (fun _ _ _ _ isCall => by cases isCall) 1 (scriptedSystem [])
    [0, 1, 2] _ (pollsOnly_turnSteps _) 2 2 rfl (by decide +kernel)
    ⟨?_, ?_, ?_, ?_, ?_, ?_, ?_, ?_, trivial⟩ (by decide +kernel)
  all_goals
    intro nowMs isPoll
    cases isPoll
  · exact ⟨by decide +kernel, by decide +kernel, by decide +kernel⟩
  · exact ⟨by decide +kernel, by decide +kernel, by decide +kernel⟩
  · exact ⟨by decide +kernel, by decide +kernel, by decide +kernel⟩
  · exact ⟨by decide +kernel, by decide +kernel, by decide +kernel⟩

end ClientSystem

end BacnetStack
