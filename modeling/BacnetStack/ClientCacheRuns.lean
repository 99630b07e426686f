import BacnetStack.ClientRuns

namespace BacnetStack

/-!
# Property caches over whole runs

A session touches its cache only when a read ends or a handle is given a
result.  So whatever an application calls, the caches are those of some such
operations, one after the other; and every operation tells the cache what its
read or its result says.
-/

namespace CacheAttempt

/-- An attempt says of a read what its caller is told. -/
structure Reports
    (attempt : CacheAttempt)
    (request : BacnetPropertyRequest)
    (result : PropertyReadResult) : Prop where
  request : attempt.request = request
  status : attempt.status = result.status
  errorClass : attempt.errorClass = result.errorClass
  errorCode : attempt.errorCode = result.errorCode
  success :
    attempt.success? =
      if result.status = .ack then some result.value else none

/-- A read that was not answered. -/
theorem reports_failure
    (request : BacnetPropertyRequest)
    {status : BacnetPropertyReadStatus}
    (failed : status ≠ .ack)
    (attemptAtMs : UInt32) :
    Reports ⟨request, status, none, attemptAtMs, 0, 0⟩ request
      { status := status } := by
  refine ⟨rfl, rfl, rfl, rfl, ?_⟩
  rw [if_neg failed]
  exact if_neg failed

/-- A read that was answered, by a value or an error. -/
theorem reports_answer
    (request : BacnetPropertyRequest)
    (result : PropertyReadResult)
    (attemptAtMs : UInt32) :
    Reports
      ⟨request, result.status, some result.value, attemptAtMs,
        result.errorClass, result.errorCode⟩
      request result :=
  ⟨rfl, rfl, rfl, rfl, rfl⟩

end CacheAttempt

namespace ClientSystem

variable {τ : Type} (runtime : ClientRuntime τ)

/-- The reads and results of a session are told as they are. -/
structure TellsCache (runtime : ClientRuntime τ) : Prop where
  /-- A blocking read that returns is one attempt. -/
  blockingRead :
    ∀ (system : ClientSystem τ) (id : SessionId)
      (request : BacnetPropertyRequest) (timeoutMs : UInt32) (rounds : Nat)
      (result : PropertyReadResult),
      (system.readPropertyDetailed runtime id request timeoutMs rounds).1 =
          some result →
        ∃ attempt : CacheAttempt, attempt.Reports request result ∧
          ((system.readPropertyDetailed runtime id request timeoutMs
              rounds).2.sessions id).propertyCache =
            (system.sessions id).propertyCache.replay
              (CacheOperation.read attempt).attempts
  /-- A read job that ends is one attempt. -/
  readJob :
    ∀ (system : ClientSystem τ) (id : SessionId) (read : ReadId)
      (status : BacnetPropertyReadStatus) (value : Option BacnetValue)
      (nowMs errorClass errorCode : UInt32),
      ((system.finishPropertyRead id read status value nowMs errorClass
          errorCode).sessions id).propertyCache =
        (system.sessions id).propertyCache.replay
          (CacheOperation.read
            { request := (system.reads read).request
              status := status
              value := value
              attemptAtMs := nowMs
              errorClass := errorClass
              errorCode := errorCode }).attempts
  /-- A result is an attempt, and each value it reports another one. -/
  result :
    ∀ (system : ClientSystem τ) (id : SessionId) (handle : SubscriptionId)
      (result : SubscriptionResult) (nowMs : UInt32),
      ((system.recordResult id handle result nowMs).sessions
          id).propertyCache =
        (system.sessions id).propertyCache.replay
          (CacheOperation.given (system.subscriptions handle) result
            nowMs).attempts

variable {runtime}

/-- One more attempt of a session. -/
theorem propertyCache_updated
    (system : ClientSystem τ)
    (id : SessionId)
    (request : BacnetPropertyRequest)
    (status : BacnetPropertyReadStatus)
    (value : Option BacnetValue)
    (attemptAtMs errorClass errorCode : UInt32) :
    ((system.setSession id
        ((system.sessions id).updatePropertyCache request status value
          attemptAtMs errorClass errorCode)).sessions id).propertyCache =
      (system.sessions id).propertyCache.replay
        (CacheOperation.read
          ⟨request, status, value, attemptAtMs, errorClass,
            errorCode⟩).attempts := by
  rw [sessions_setSession_self]
  rfl

/-- A failed read tells the cache that it failed. -/
theorem reports_cacheFailure
    {status : BacnetPropertyReadStatus}
    (failed : status ≠ .ack)
    (system : ClientSystem τ)
    (id : SessionId)
    (request : BacnetPropertyRequest) :
    ∃ attempt : CacheAttempt, attempt.Reports request { status := status } ∧
      ((system.cacheFailure runtime id request status).sessions
          id).propertyCache =
        (system.sessions id).propertyCache.replay
          (CacheOperation.read attempt).attempts := by
  refine ⟨_, CacheAttempt.reports_failure request failed
    (system.client.nowMs runtime).1, ?_⟩
  unfold cacheFailure
  dsimp only
  rw [propertyCache_updated]
  rfl

/-- An answered read tells the cache its answer. -/
theorem reports_updated
    (system : ClientSystem τ)
    (id : SessionId)
    (request : BacnetPropertyRequest)
    (result : PropertyReadResult)
    (attemptAtMs : UInt32) :
    ∃ attempt : CacheAttempt, attempt.Reports request result ∧
      ((system.setSession id
          ((system.sessions id).updatePropertyCache request result.status
            (some result.value) attemptAtMs result.errorClass
            result.errorCode)).sessions id).propertyCache =
        (system.sessions id).propertyCache.replay
          (CacheOperation.read attempt).attempts :=
  ⟨_, CacheAttempt.reports_answer request result attemptAtMs,
    propertyCache_updated ..⟩

/-- An invoke id leaves the cache alone. -/
theorem propertyCache_allocateInvokeId
    (system : ClientSystem τ)
    (id : SessionId) :
    ((system.allocateInvokeId id).2.sessions id).propertyCache =
      (system.sessions id).propertyCache := by
  unfold allocateInvokeId
  dsimp only
  rw [sessions_setSession_self]
  rfl

/-- A read that is refused, not sent, not answered or answered. -/
theorem reports_readPropertyDetailed
    (system : ClientSystem τ)
    (id : SessionId)
    (request : BacnetPropertyRequest)
    (timeoutMs : UInt32)
    (rounds : Nat)
    {result : PropertyReadResult}
    (returns :
      (system.readPropertyDetailed runtime id request timeoutMs rounds).1 =
        some result) :
    ∃ attempt : CacheAttempt, attempt.Reports request result ∧
      ((system.readPropertyDetailed runtime id request timeoutMs
          rounds).2.sessions id).propertyCache =
        (system.sessions id).propertyCache.replay
          (CacheOperation.read attempt).attempts := by
  revert returns
  rw [← propertyCache_allocateInvokeId system id]
  unfold readPropertyDetailed
  dsimp only
  split
  · intro returns
    obtain rfl := Option.some.inj returns
    rw [propertyCache_allocateInvokeId system id]
    exact reports_cacheFailure (by decide) system id request
  split
  · intro returns
    obtain rfl := Option.some.inj returns
    exact reports_cacheFailure (by decide) _ id request
  split
  · intro returns
    cases returns
  · intro returns
    obtain rfl := Option.some.inj returns
    exact reports_cacheFailure (by decide) _ id request
  · intro returns
    obtain rfl := Option.some.inj returns
    exact reports_updated _ id request _ _

theorem propertyCache_finishPropertyRead
    (system : ClientSystem τ)
    (id : SessionId)
    (read : ReadId)
    (status : BacnetPropertyReadStatus)
    (value : Option BacnetValue)
    (nowMs errorClass errorCode : UInt32) :
    ((system.finishPropertyRead id read status value nowMs errorClass
        errorCode).sessions id).propertyCache =
      (system.sessions id).propertyCache.replay
        (CacheOperation.read
          { request := (system.reads read).request
            status := status
            value := value
            attemptAtMs := nowMs
            errorClass := errorClass
            errorCode := errorCode }).attempts := by
  unfold finishPropertyRead releasePropertyRead
  dsimp only
  show ((setSession (setSession system id _) id _).sessions
    id).propertyCache = _
  rw [sessions_setSession_self, sessions_setSession_self]
  rfl

theorem propertyCache_recordResult
    (system : ClientSystem τ)
    (id : SessionId)
    (handle : SubscriptionId)
    (result : SubscriptionResult)
    (nowMs : UInt32) :
    ((system.recordResult id handle result nowMs).sessions
        id).propertyCache =
      (system.sessions id).propertyCache.replay
        (CacheOperation.given (system.subscriptions handle) result
          nowMs).attempts := by
  show ((setSession system id _).sessions id).propertyCache = _
  rw [sessions_setSession_self, BacnetDeviceSession.cacheResult_eq]

theorem tellsCache (runtime : ClientRuntime τ) : TellsCache runtime where
  blockingRead system id request timeoutMs rounds _ returns :=
    reports_readPropertyDetailed system id request timeoutMs rounds returns
  readJob := propertyCache_finishPropertyRead
  result := propertyCache_recordResult

/-- A session only ever tells its cache of operations. -/
theorem followsCache (guard : NotificationGuard τ) :
    SessionRule guard fun _ before after =>
      before.propertyCache.FollowsFrom after.propertyCache where
  trans := PropertyCache.FollowsFrom.trans
  quiet quiet := quiet.cache
  turn _ _ _ _ := .refl _
  slot _ _ _ := .refl _
  pending _ _ _ := .refl _

/--
Whatever is attempted, a cache of any positive size remembers what was
inserted last; the cache of a session is one that was told of reads and
results, whatever the application calls and its callbacks call; and what it
is told of each of them is what was read.
-/
theorem propertyCache_remembers
    (runtime : ClientRuntime τ)
    {size : Nat}
    (positive : 0 < size) :
    (∀ attempts,
      ((PropertyCache.ofSize size).replay attempts).Remembers size
        (.ofAttempts size attempts)) ∧
      (∀ (application : ClientApplication τ) (depth : Nat)
        (system : ClientSystem τ) (steps : List ClientStep)
        (id : SessionId),
        (system.sessions id).propertyCache = .ofSize size →
          ∃ operations : List CacheOperation,
            ((system.run runtime (application.callback runtime depth)
                  steps).sessions id).propertyCache =
                (PropertyCache.ofSize size).replay
                  (operations.flatMap CacheOperation.attempts) ∧
              (((system.run runtime (application.callback runtime depth)
                  steps).sessions id).propertyCache).Remembers size
                (.ofAttempts size
                  (operations.flatMap CacheOperation.attempts))) ∧
      TellsCache runtime := by
  have remembers (attempts : List CacheAttempt) :=
    (PropertyCache.follows_replay positive attempts).remembers
  refine ⟨remembers, fun application depth system steps id empty => ?_,
    tellsCache runtime⟩
  obtain ⟨operations, same⟩ :=
    (followsCache (.trivial τ)).run runtime application depth system steps id
  rw [empty] at same
  exact ⟨operations, same, same ▸ remembers _⟩

/-- A cache of one slot after a success, a timeout and another property. -/
theorem propertyCache_remembers_one :
    ((PropertyCache.ofSize 1).replay
        [{ request := {}, status := .ack, value := some {},
            attemptAtMs := 1 },
          { request := {}, status := .timeout, value := none,
            attemptAtMs := 2 },
          { request := { arrayIndex := 1 }, status := .busy, value := none,
            attemptAtMs := 3 }]).Remembers 1
      (.ofAttempts 1
        [{ request := {}, status := .ack, value := some {},
            attemptAtMs := 1 },
          { request := {}, status := .timeout, value := none,
            attemptAtMs := 2 },
          { request := { arrayIndex := 1 }, status := .busy, value := none,
            attemptAtMs := 3 }]) :=
  (propertyCache_remembers scriptedRuntime Nat.one_pos).1 _

end ClientSystem

end BacnetStack
