import BacnetStack.ClientPropertyList

namespace BacnetStack

/-!
# Reading many properties

The blocking `readAllProperties` reads one property after the other, as far
as the caller's results reach, and goes on after a read that failed.
`readAllAdvertisedProperties` asks for the Property_List first.  The counters
say what became of the reads, and every read is there with its outcome.
-/

/-- One entry of the caller's results. -/
structure BacnetPropertyReadResult where
  propertyId : BacnetPropertyId := .objectName
  status : BacnetPropertyReadStatus := .skipped
  value : BacnetValue := {}
  errorClass : UInt32 := 0
  errorCode : UInt32 := 0
  deriving Repr, DecidableEq, Inhabited

/-- The entry of a property whose read has ended. -/
def BacnetPropertyReadResult.ofRead
    (property : BacnetPropertyId)
    (read : PropertyReadResult) : BacnetPropertyReadResult where
  propertyId := property
  status := read.status
  value := read.value
  errorClass := read.errorClass
  errorCode := read.errorCode

/-- The summary of a call, with what is written to the caller's results. -/
structure BacnetPropertyReadAllResult where
  propertyListStatus : BacnetPropertyReadStatus := .skipped
  advertised : UInt32 := 0
  collected : Nat := 0
  requested : Nat := 0
  attempted : Nat := 0
  stored : Nat := 0
  acked : Nat := 0
  failed : Nat := 0
  truncated : Bool := false
  results : List BacnetPropertyReadResult := []
  deriving Repr, DecidableEq, Inhabited

namespace BacnetPropertyReadAllResult

/-- Count the outcome of a read, and write it to the results. -/
def record
    (summary : BacnetPropertyReadAllResult)
    (entry : BacnetPropertyReadResult) : BacnetPropertyReadAllResult :=
  { summary with
    attempted := summary.attempted + 1
    stored := summary.stored + 1
    acked :=
      if entry.status = .ack then summary.acked + 1 else summary.acked
    failed :=
      if entry.status = .ack then summary.failed else summary.failed + 1
    results := summary.results ++ [entry] }

/-- A summary that counts the reads it has results of. -/
structure Counts (summary : BacnetPropertyReadAllResult) : Prop where
  attempted : summary.attempted = summary.results.length
  stored : summary.stored = summary.results.length
  acked :
    summary.acked =
      summary.results.countP fun entry => entry.status == .ack
  ended : summary.acked + summary.failed = summary.attempted

theorem Counts.record
    {summary : BacnetPropertyReadAllResult}
    (counts : summary.Counts)
    (entry : BacnetPropertyReadResult) :
    (summary.record entry).Counts := by
  have ended := counts.ended
  refine ⟨?_, ?_, ?_, ?_⟩
  · simp [BacnetPropertyReadAllResult.record, counts.attempted]
  · simp [BacnetPropertyReadAllResult.record, counts.stored]
  · by_cases isAck : entry.status = .ack <;>
      simp [BacnetPropertyReadAllResult.record, counts.acked, isAck]
  · by_cases isAck : entry.status = .ack
    · simp only [BacnetPropertyReadAllResult.record, if_pos isAck]
      omega
    · simp only [BacnetPropertyReadAllResult.record, if_neg isAck]
      omega

end BacnetPropertyReadAllResult

namespace ClientSystem

variable {τ : Type} (runtime : ClientRuntime τ)

end ClientSystem

end BacnetStack
