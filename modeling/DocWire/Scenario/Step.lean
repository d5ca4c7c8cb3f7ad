import DocWire.Cursor.GetMore
import DocWire.Cursor.Kill
import DocWire.Operation.Basic
import DocWire.Scenario.Overlap
import DocWire.Scenario.Script

/-! The steps of a scenario, on objects by their names, and the answers to them. -/

namespace DocWire

/-- How a call is made: awaited, blocking the caller, or in the background. -/
inductive Calling where
  | awaited
  | blocking
  | background
deriving DecidableEq, Repr, Inhabited

/-- How an operation on a connection is called, and whether as a method of the connection. -/
structure Via where
  method : Bool := false
  calling : Calling := .awaited
deriving DecidableEq, Repr, Inhabited

/-- The connection of an operation, and how the operation treats it. -/
structure ConnectionUse where
  name : String
  context : Correlation := {}
  closes : Bool := false
  via : Via := {}
deriving Repr, Inhabited

/-- Where the session of an operation comes from. -/
inductive ContextName where
  | absent
  | session (name : String) (implicit : Bool)
  | source (name : String)
  | binding (name : String)
deriving DecidableEq, Repr, Inhabited

/-- A command in a scenario. -/
structure CommandStep where
  database : String
  command : Document
  decoder : Decoder Decoded := Decoder.document
  readPreference : Option ReadPreference := none
  session : ContextName := .absent
  api : Option ServerApi := none
  responseExpected : Bool := true
  payload : Option String := none
  rule : NameRule := .any

/-- The session that a new session binding takes. -/
inductive SessionChoice where
  | fresh (pool : String)
  | given (session : String) (owned : Bool)
deriving DecidableEq, Repr, Inhabited

/-- A call on a source or a connection, early in a body. -/
inductive EarlyCall where
  | releaseConnection
  | releaseSource
  | retainConnection
  | retainSource
  | close
deriving DecidableEq, Repr, Inhabited

/-- How a body ends. -/
inductive BodyEnd where
  | noted
  | failing
  | waiting
deriving DecidableEq, Repr, Inhabited

/-- A call on a source. -/
inductive CountCall where
  | retain
  | release
deriving DecidableEq, Repr, Inhabited

/-- What a step does. -/
inductive Action where
  | connect (name : String) (description : ConnectionDescription) (hungUp : Bool)
  | close (connection : String)
  | pin (connection : String) (mode : PinningMode)
  | retained (connection name : String)
  | write (use : ConnectionUse) (write : Write)
  | command (use : ConnectionUse) (step : CommandStep)
  | query (use : ConnectionUse) (query : Query) (decoder : Decoder Decoded)
  | getMore (use : ConnectionUse) (request : GetMore) (decoder : Decoder Decoded)
  | killCursors (use : ConnectionUse) (request : KillCursors)
  | payload (name : String) (kind : PayloadKind) (documents : List Document)
  | overlap (connection : String) (steps : List MeanwhileStep) (cancelAfter : Option Nat)
    (closes : Bool)
  | retain (name : String)
  | release (name : String)
  | count (name : String)
  | pool (name : String)
  | session (name pool : String) (causal : Bool)
  | checkOut (name pool : String)
  | checkIn (pool session : String)
  | closeSession (session : String)
  | context (context : ContextName)
  | advance (context : ContextName) (cluster : Option Document) (operation : Option Timestamp)
  | topology (name : String) (type : TopologyType) (options : TopologyOptions)
  | publish (topology : String) (change : Publication)
  | describe (topology : String)
  | select (topology : String) (criteria : Criteria) (later : Option (Nat × Server))
  | clusterBinding (name topology : String) (preference : ReadPreference)
  | sessionBinding (name binding : String) (choice : SessionChoice)
  | bindingInfo (binding : String)
  | source (name binding : String) (intent : Intent)
  | heldSource (binding : String) (intent : Intent) (connection : Option String)
    (calls : List CountCall)
  | checkout (name source : String)
  | runCommand (binding : String) (operation : RunCommand) (decoder : Decoder Decoded)
    (calling : Calling)
  | dropUser (binding : String) (operation : DropUser) (calling : Calling)
  | withConnection (binding : String) (intent : Intent) (early : List EarlyCall) (ping : Bool)
    (ending : BodyEnd)

/-- Something that a scenario has named. -/
inductive Named where
  | connection (number : Nat)
  | payload (payload : Payload)
  | pool (key : Nat)
  | serverSession (session : ServerSession)
  | session (key : Nat)
  | topology (key : Nat)
  | binding (binding : Binding)
  | source (source : Source)
deriving Repr, Inhabited

/-- What can be seen of a named object between steps. -/
inductive Standing where
  | connection (count : Nat) (closed : Bool) (pinning : PinningMode)
  | payload (position length : Nat) (hasMore isEmpty : Bool)
  | pool (length : Nat)
  | session (closed : Bool)
  | counted (count : Nat)
  | sessionBinding (count innerCount : Nat) (closed : Bool)
deriving DecidableEq, Repr, Inhabited

/-- What is known of the session that operations run under. -/
structure ContextReport where
  session : Option ClientSession
  implicit : Bool

/-- What is known of a binding. -/
structure BindingReport where
  preference : ReadPreference
  api : Option ServerApi
  context : ContextReport

/-- The answer to a step. -/
inductive Answer where
  | nothing
  | connection (id : ConnectionId)
  | address (address : Address)
  | write (result : WriteResult)
  | reply (reply : Option Decoded)
  | decoded (decoded : Decoded)
  | batch (batch : Batch Decoded)
  | identifier (identifier : String)
  | overlap (result : OverlapResult)
  | count (count : Nat)
  | serverSession (session : ServerSession)
  | context (report : ContextReport)
  | timeout (timeout : Duration)
  | cluster (cluster : ClusterDescription)
  | selected (servers : List String)
  | binding (report : BindingReport)
  | sessionBinding (report : BindingReport) (ownsSession : Bool)
  | source (server : ServerDescription)
  | heldSource (server : ServerDescription) (count : Nat) (hasSession : Bool)
  | note (sourceCount connectionCount : Nat) (closed : Bool)

/-- A step: what is done, and how the server reacts to the messages of the step. -/
structure Step where
  action : Action
  script : List Reaction := []

/-- What is reported of a step. -/
structure StepReport where
  result : Except Halt Answer
  sent : List (Nat × Bytes)
  unused : Nat
  standings : List (String × Standing)
  events : List Event

end DocWire
