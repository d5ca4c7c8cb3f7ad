import DocWire.Command.Payload
import DocWire.Connection.Network
import DocWire.References

/-! Connections, and the line that one operation works on. -/

namespace DocWire

/-- A connection to a server. -/
structure Connection where
  id : ConnectionId
  description : ConnectionDescription
  channel : Option Channel := some {}
  inFlight : Bool := false
  closed : Bool := false
  pinning : PinningMode := .none
  references : References := {}
deriving Repr, Inhabited

/-- What one operation works on: a connection, the session it runs under, the payload it carries and
the network. -/
structure Line where
  connection : Connection
  session : Option ClientSession := none
  payload : Option Payload := none
  network : Network
deriving Inhabited

namespace Line

/-- Reports an event. -/
def emit (line : Line) (event : Event) : Line :=
  { line with network := line.network.emit event }

/-- Flags the connection as closed, and reports it the first time. -/
def markClosed (line : Line) (reason : CloseReason) : Line :=
  -- The first reason is the one that is told; later ones change nothing.
  if line.connection.closed then line
  else
    { line with connection := { line.connection with closed := true } }.emit
      (.connectionClosed line.connection.id reason)

/-- Drops the channel. -/
def dropChannel (line : Line) : Line :=
  { line with connection := { line.connection with channel := none } }

/-- Closes an open connection; an exchange in flight keeps the channel until it ends. -/
def close (line : Line) (reason : CloseReason) : Line :=
  if line.connection.closed then line
  -- The exchange finds the flag when it ends, and drops the channel then.
  else if line.connection.inFlight then line.markClosed reason
  else (line.markClosed reason).dropChannel

/-- Dedicates the connection, and reports a change. -/
def pin (line : Line) (mode : PinningMode) : Line :=
  -- A mode that is kept is not told again.
  if line.connection.pinning = mode then line
  else
    { line with connection := { line.connection with pinning := mode } }.emit
      (.connectionPinned line.connection.id mode)

/-- Takes one more reference to the connection. -/
def retain (line : Line) : Except Cause Line :=
  match line.connection.references.retain .connection with
  | .error fault => .error (.lifecycle fault)
  | .ok references => .ok { line with connection := { line.connection with references } }

/-- Gives a reference up; the last one closes the connection. -/
def release (line : Line) : Except Cause Line :=
  match line.connection.references.release .connection with
  | .error fault => .error (.lifecycle fault)
  | .ok (last, references) =>
    let line := { line with connection := { line.connection with references } }
    -- The count has reached zero before the closing is told.
    .ok (if last then line.close .lastReference else line)

/-- Refuses a connection that nobody holds or that is closed. -/
def ensureOpen (line : Line) : Except Cause Unit :=
  -- That nobody holds the connection is told before that it is closed.
  match line.connection.references.ensureLive .connection with
  | .error fault => .error (.lifecycle fault)
  | .ok () => if line.connection.closed then .error (.closed line.connection.id) else .ok ()

end Line
end DocWire
