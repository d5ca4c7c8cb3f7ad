import DocWire.Connection.Description
import DocWire.Error.Basic

/-! Events: what the library reports while it works, for whoever listens. -/

namespace DocWire

/-- Why a connection was closed. -/
inductive CloseReason where
  | asked
  | lastReference
  | exchangeFailed
  | exchangeCancelled
deriving DecidableEq, Repr, Inhabited

/-- The text of a reason. -/
def CloseReason.text : CloseReason → String
  | asked => "closed by the driver"
  | lastReference => "the last reference was released"
  | exchangeFailed => "the exchange failed"
  | exchangeCancelled => "the exchange was cancelled"

/-- What ties the events of one operation together. -/
structure Correlation where
  operation : Option Int64 := none
  name : Option String := none
deriving DecidableEq, Repr, Inhabited

/-- Something that happened. -/
inductive Event where
  | connectionCreated (connection : ConnectionId) (wireVersion : Int32)
  | connectionPinned (connection : ConnectionId) (mode : PinningMode)
  | connectionClosed (connection : ConnectionId) (reason : CloseReason)
  | sending (connection : ConnectionId) (request : Int32) (name : String) (context : Correlation)
  | exchanged (connection : ConnectionId) (request : Int32) (name : String) (answered : Bool)
  | exchangeFailed (connection : ConnectionId) (request : Int32) (name : String)
  | serverFailure (address : Address) (code : Int32) (message : String)
  | gettingMore (connection : ConnectionId) (cursor : Int64) (source : Namespace)
  | gotMore (cursor : Int64) (returned : Nat) (exhausted : Bool)
  | killFailed (source : Namespace) (cursors : List Int64)
  | selectionStarted (criteria cluster : String)
  | selectionWaiting (criteria : String)
  | selectionSucceeded (criteria : String) (address : Address)
  | selectionFailed (criteria : String)
  | sessionClosed
  | sessionNotClosed
  | sourceNotReleased
  | operationNotReleased
deriving DecidableEq, Repr, Inhabited

/-- The value of a field of an event; the text of a failure is withheld. -/
inductive EventField where
  | text (text : String)
  | number (number : Int)
  | truth (truth : Bool)
  | withheld
deriving DecidableEq, Repr, Inhabited

/-- How much an event matters. -/
inductive EventLevel where
  | debug
  | info
  | warn
deriving DecidableEq, Repr, Inhabited

/-- The name of a level. -/
def EventLevel.name : EventLevel → String
  | debug => "DEBUG"
  | info => "INFO"
  | warn => "WARN"

/-- The part of the library that an event is about. -/
inductive EventTopic where
  | command
  | connection
  | selection
  | binding
deriving DecidableEq, Repr, Inhabited

/-- The name under which events of a topic are published. -/
def EventTopic.name : EventTopic → String
  | command => "mongodb_binding::command"
  | connection => "mongodb_binding::connection"
  | selection => "mongodb_binding::server_selection"
  | binding => "mongodb_binding::binding"

/-- Numbers in brackets, set apart by commas. -/
def bracketed (numbers : List Int64) : String :=
  "[" ++ String.intercalate ", " (numbers.map fun n => toString n.toInt) ++ "]"

namespace Event

/-- How much the event matters. -/
def level : Event → EventLevel
  | selectionWaiting _ => .info
  -- What could not be given back may be missing later.
  | sessionNotClosed | sourceNotReleased | operationNotReleased => .warn
  | _ => .debug

/-- What the event is about. -/
def topic : Event → EventTopic
  | connectionCreated .. | connectionPinned .. | connectionClosed .. => .connection
  | sending .. | exchanged .. | exchangeFailed .. | serverFailure .. | gettingMore .. | gotMore ..
  | killFailed .. => .command
  | selectionStarted .. | selectionWaiting .. | selectionSucceeded .. | selectionFailed .. =>
    .selection
  | sessionClosed | sessionNotClosed | sourceNotReleased | operationNotReleased => .binding

/-- The text of the event. -/
def message : Event → String
  | connectionCreated .. => "Connection created"
  | connectionPinned .. => "Connection pinned"
  | connectionClosed .. => "Connection closed"
  | sending .. => "Sending message"
  | exchanged .. => "Message exchange succeeded"
  | exchangeFailed .. => "Message exchange failed"
  | serverFailure _ _ message => "Server reported a failure: " ++ message
  | gettingMore .. => "Getting more documents"
  | gotMore .. => "Get-more completed"
  | killFailed .. => "killCursors failed"
  | selectionStarted .. => "Server selection started"
  | selectionWaiting .. => "Waiting for suitable server to become available"
  | selectionSucceeded .. => "Server selection succeeded"
  | selectionFailed .. => "Server selection failed"
  | sessionClosed => "Implicit session closed"
  | sessionNotClosed => "Failed to close implicit session"
  | sourceNotReleased => "Failed to release connection source of a released session binding"
  | operationNotReleased => "Failed to release operation resources"

/-- The host and the port of a server, as fields. -/
def addressFields (address : Address) : List (String × EventField) :=
  [("serverHost", .text address.host), ("serverPort", .number address.effectivePort.toNat)]

/-- The number of a connection, as a field. -/
def connectionField (connection : ConnectionId) : String × EventField :=
  ("driverConnectionId", .number connection.number)

/-- The fields that tie an event to its operation, where they are given. -/
def correlationFields (context : Correlation) : List (String × EventField) :=
  (context.operation.map fun id => ("operationId", EventField.number id.toInt)).toList ++
    (context.name.map fun name => ("operationName", EventField.text name)).toList

/-- The fields of the event, in no order. -/
def unsortedFields : Event → List (String × EventField)
  | connectionCreated connection wireVersion =>
    addressFields connection.address ++
      [connectionField connection, ("maxWireVersion", .number wireVersion.toInt)]
  | connectionPinned connection mode =>
    addressFields connection.address ++
      [connectionField connection, ("pinningMode", .text mode.name)]
  | connectionClosed connection reason =>
    addressFields connection.address ++ [connectionField connection, ("reason", .text reason.text)]
  | sending connection request name context =>
    [("requestId", .number request.toInt), ("opName", .text name)] ++
      addressFields connection.address ++ [connectionField connection] ++ correlationFields context
  | exchanged connection request name answered =>
    [("requestId", .number request.toInt), ("opName", .text name), connectionField connection,
      ("responseReceived", .truth answered)]
  | exchangeFailed connection request name =>
    [("requestId", .number request.toInt), ("opName", .text name), connectionField connection,
      ("failure", .withheld)]
  | serverFailure address code _ => addressFields address ++ [("code", .number code.toInt)]
  | gettingMore connection cursor source =>
    [("cursorId", .number cursor.toInt), ("namespace", .text source.text),
      connectionField connection] ++ addressFields connection.address
  | gotMore cursor returned exhausted =>
    [("cursorId", .number cursor.toInt), ("returned", .number returned),
      ("exhausted", .truth exhausted)]
  | killFailed source cursors =>
    [("namespace", .text source.text), ("cursorIds", .text (bracketed cursors)),
      ("failure", .withheld)]
  | selectionStarted criteria cluster =>
    [("selector", .text criteria), ("topologyDescription", .text cluster)]
  | selectionWaiting criteria => [("selector", .text criteria)]
  | selectionSucceeded criteria address => ("selector", .text criteria) :: addressFields address
  | selectionFailed criteria => [("selector", .text criteria), ("failure", .withheld)]
  | sessionClosed => []
  | sessionNotClosed | sourceNotReleased | operationNotReleased => [("failure", .withheld)]

/-- The fields of the event, by name. -/
def fields (event : Event) : List (String × EventField) :=
  -- A stable order that does not depend on how the event lists them.
  event.unsortedFields.mergeSort fun a b => a.1 ≤ b.1

end Event
end DocWire
