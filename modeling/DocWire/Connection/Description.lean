import DocWire.Cluster.Description

/-! What is known of the server at the other end of a connection. -/

namespace DocWire

/-- The limits and the dialect that a server declared when the connection was made. -/
structure ConnectionDescription where
  address : Address
  type : ServerType := .unknown
  wireVersion : Int32 := 21
  documentLimit : Int32 := 16777216
  messageLimit : Int32 := 48000000
  batchLimit : Nat := 100000
deriving DecidableEq, Repr, Inhabited

namespace ConnectionDescription

/-- Whether writes are commands. -/
def hasWriteCommands (description : ConnectionDescription) : Bool := 2 ≤ description.wireVersion

/-- Whether queries are commands. -/
def hasFindCommand (description : ConnectionDescription) : Bool := 4 ≤ description.wireVersion

/-- Whether commands are messages of the current framing. -/
def hasMessages (description : ConnectionDescription) : Bool := 6 ≤ description.wireVersion

/-- How long a document may be; a negative limit allows none. -/
def documentBytes (description : ConnectionDescription) : Nat :=
  -- The cut at zero is what turns a negative limit into none.
  description.documentLimit.toInt.toNat

/-- How long a message may be; a negative limit allows none. -/
def messageBytes (description : ConnectionDescription) : Nat :=
  description.messageLimit.toInt.toNat

end ConnectionDescription

/-- What a connection is dedicated to. -/
inductive PinningMode where
  | none
  | cursor
  | transaction
deriving DecidableEq, Repr, Inhabited

/-- The name of a mode. -/
def PinningMode.name : PinningMode → String
  | none => "None"
  | cursor => "Cursor"
  | transaction => "Transaction"

end DocWire
