import BacnetStack.ClientCacheHistory
import BacnetStack.ClientSubscription

namespace BacnetStack

/-!
# What a session tells its cache

A session tells its cache of every read that ends and of every result of a
handle.  A result is an attempt to read the property of the handle, and each
value that a notification reports is a successful attempt as well.
-/

/-- The attempt that a result of a handle is. -/
def SubscriptionResult.attempt
    (result : SubscriptionResult)
    (request : BacnetPropertyRequest)
    (nowMs : UInt32) : CacheAttempt where
  request := request
  status := result.propertyStatus
  value := result.value
  attemptAtMs := nowMs
  errorClass := result.errorClass
  errorCode := result.errorCode

/-- The attempt that a reported value of the handle's object is. -/
def BacnetPropertySubscription.reportedAttempt
    (subscription : BacnetPropertySubscription)
    (nowMs : UInt32)
    (reported : BacnetCovPropertyValue) : CacheAttempt where
  request :=
    { object := subscription.objectId
      property := reported.property
      arrayIndex := reported.arrayIndex }
  status := .ack
  value := some reported.value
  attemptAtMs := nowMs

/-- What a session tells its cache of. -/
inductive CacheOperation where
  /-- A read ended. -/
  | read (attempt : CacheAttempt)
  /-- A poll or a delivery gave a handle a result. -/
  | given
      (subscription : BacnetPropertySubscription)
      (result : SubscriptionResult)
      (nowMs : UInt32)

/-- The attempts that an operation consists of. -/
def CacheOperation.attempts : CacheOperation → List CacheAttempt
  | .read attempt => [attempt]
  | .given subscription result nowMs =>
      result.attempt subscription.request nowMs ::
        result.covNotification.toList.flatMap fun notification =>
          notification.properties.map (subscription.reportedAttempt nowMs)

namespace PropertyCache

/-- The cache is what some operations make of another one. -/
def FollowsFrom (before after : PropertyCache) : Prop :=
  ∃ operations : List CacheOperation,
    after = before.replay (operations.flatMap CacheOperation.attempts)

theorem FollowsFrom.refl (cache : PropertyCache) : cache.FollowsFrom cache :=
  ⟨[], rfl⟩

theorem FollowsFrom.trans
    {first second third : PropertyCache}
    (early : first.FollowsFrom second)
    (late : second.FollowsFrom third) :
    first.FollowsFrom third := by
  obtain ⟨earlier, rfl⟩ := early
  obtain ⟨later, rfl⟩ := late
  refine ⟨earlier ++ later, ?_⟩
  rw [List.flatMap_append]
  exact List.foldl_append.symm

/-- One operation. -/
theorem followsFrom_replay
    (cache : PropertyCache)
    (operation : CacheOperation) :
    cache.FollowsFrom (cache.replay operation.attempts) := by
  refine ⟨[operation], ?_⟩
  rw [List.flatMap_singleton]

/-- A read that ended. -/
theorem followsFrom_update
    (cache : PropertyCache)
    (request : BacnetPropertyRequest)
    (status : BacnetPropertyReadStatus)
    (value : Option BacnetValue)
    (attemptAtMs errorClass errorCode : UInt32) :
    cache.FollowsFrom
      (cache.update request status value attemptAtMs errorClass
        errorCode) :=
  cache.followsFrom_replay
    (.read
      { request := request
        status := status
        value := value
        attemptAtMs := attemptAtMs
        errorClass := errorClass
        errorCode := errorCode })

end PropertyCache

/-- The values that a notification reports, one after the other. -/
theorem BacnetDeviceSession.foldl_reported
    (session : BacnetDeviceSession)
    (subscription : BacnetPropertySubscription)
    (reported : List BacnetCovPropertyValue)
    (nowMs : UInt32) :
    reported.foldl
        (fun session reported =>
          session.updatePropertyCache
            { object := subscription.objectId
              property := reported.property
              arrayIndex := reported.arrayIndex }
            .ack (some reported.value) nowMs)
        session =
      { session with
        propertyCache :=
          session.propertyCache.replay
            (reported.map (subscription.reportedAttempt nowMs)) } := by
  induction reported generalizing session with
  | nil => rfl
  | cons first others inductionHypothesis => exact inductionHypothesis _

/-- The cache is told of a result, and nothing else changes. -/
theorem BacnetDeviceSession.cacheResult_eq
    (session : BacnetDeviceSession)
    (subscription : BacnetPropertySubscription)
    (result : SubscriptionResult)
    (nowMs : UInt32) :
    session.cacheResult subscription result nowMs =
      { session with
        propertyCache :=
          session.propertyCache.replay
            (CacheOperation.given subscription result nowMs).attempts } := by
  unfold cacheResult CacheOperation.attempts
  dsimp only
  split
  · rename_i isPoll
    rw [isPoll]
    rfl
  · rename_i notification isDelivery
    rw [isDelivery, foldl_reported, Option.toList_some,
      List.flatMap_singleton]
    rfl

end BacnetStack
