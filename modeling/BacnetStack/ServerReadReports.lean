import BacnetStack.ServerScanAnswers

namespace BacnetStack

/-!
# What a client reports of a property

A read is refused, or what its index selects is acknowledged, or nothing is
sent because that does not fit.  In each case the content of the property
says what a client reports: an error, the value, the text of a list, or that
the time of the call was over.
-/

open Reader

/-- The text a client has for an error. -/
def errorText (error : BacnetError) : List UInt8 :=
  (propertyErrorText error.1 error.2).getD []

/-- What a client makes of an error. -/
def errorPoll (error : BacnetError) : BacnetReadPropertyPoll where
  status := .error
  value := setTextValue {} .error (errorText error)
  errorClass := error.1
  errorCode := error.2

/-- What a client makes of an empty list. -/
def emptyPoll (property : BacnetPropertyId) : BacnetReadPropertyPoll :=
  if property = .deviceAddressBinding then
    { status := .ack, value := { type := .empty } }
  else
    { status := .decodeError }

namespace BacnetServer

variable {server : BacnetServer} {request : BacnetPropertyRequest}

/-- What is reported of values that are read as the text of a list. -/
def ListReports
    (property : BacnetPropertyId)
    (values : List (Option BacnetValue))
    (result : PropertyReadResult) : Prop :=
  (∀ sent : List BacnetObjectId,
    property = .objectList →
      values = sent.map (fun object => some (listedObjectValue object)) →
      (listText (sent.map objectIdText)).length < kMaxTextLength →
        result.status = .ack ∧
          (AckContent.objects sent).SaidBy result.value) ∧
  ∀ sent : List BacnetPropertyId,
    property = .propertyList →
      values = sent.map (fun property => some (listedProperty property)) →
      (listText (sent.map fun property =>
        unsignedDecimal property.raw)).length < kMaxTextLength →
        result.status = .ack ∧
          (AckContent.properties sent).SaidBy result.value

/--
What a client may report of a read, by what the server has there.  A list is
reported as its text, if that fits into a value.  Nothing is reported of what
fits into no packet of the server, or not into the buffer of the client.
-/
inductive ReadReports
    (server : BacnetServer)
    (request : BacnetPropertyRequest) : PropertyReadResult → Prop where
  | refused
      (nothing : server.selected request = none) :
      ReadReports server request
        (.ofPoll (errorPoll (server.refusal request)) request.arrayIndex)
  | unsent
      {values : List (Option BacnetValue)}
      (selects : server.selected request = some values)
      (noRoom : acknowledgement { request := request } values = none) :
      ReadReports server request { status := .timeout }
  | unread
      {values : List (Option BacnetValue)}
      {packet : List UInt8}
      (selects : server.selected request = some values)
      (sent : acknowledgement { request := request } values = some packet)
      (long : ¬Receivable packet) :
      ReadReports server request { status := .timeout }
  | empty
      (selects : server.selected request = some []) :
      ReadReports server request
        (.ofPoll (emptyPoll request.property) request.arrayIndex)
  | single
      {value : BacnetValue}
      (selects : server.selected request = some [some value])
      (plain :
        ¬ReadsAsList request.property request.arrayIndex value.type) :
      ReadReports server request
        (.ofPoll { status := .ack, value := receivedValue value }
          request.arrayIndex)
  | many
      {first second : BacnetValue}
      {rest : List (Option BacnetValue)}
      (selects :
        server.selected request = some (some first :: some second :: rest))
      (plain :
        ¬ReadsAsList request.property request.arrayIndex first.type) :
      ReadReports server request
        (.ofPoll { status := .decodeError, value := receivedValue first }
          request.arrayIndex)
  | listed
      {first : BacnetValue}
      {rest : List (Option BacnetValue)}
      {result : PropertyReadResult}
      (selects : server.selected request = some (some first :: rest))
      (asList :
        ReadsAsList request.property request.arrayIndex first.type)
      (reports :
        ListReports request.property (some first :: rest) result) :
      ReadReports server request result

/-- The content of a property depends on the configuration only. -/
theorem SameConfiguration.selected
    {running : BacnetServer}
    (same : server.SameConfiguration running)
    (request : BacnetPropertyRequest) :
    running.selected request = server.selected request ∧
      running.refusal request = server.refusal request := by
  obtain ⟨objects, device⟩ := same
  cases running
  cases server
  dsimp only at objects device
  subst objects device
  exact ⟨rfl, rfl⟩

end BacnetServer

end BacnetStack
