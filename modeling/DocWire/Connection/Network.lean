import DocWire.Connection.Channel
import DocWire.Event

/-! What the connections of one run share: the clock, the server's script, the counter of request
ids and the record of what was sent and reported. -/

namespace DocWire

/-- The surroundings in which connections work. -/
structure Network where
  now : Nat := 0
  patience : Nat := 0
  blocking : Bool := false
  script : List Behaviour := []
  sent : List (Nat × Bytes) := []
  nextRequest : Int32 := 0
  events : List Event := []
deriving Inhabited

namespace Network

/-- Reports an event. -/
def emit (network : Network) (event : Event) : Network :=
  { network with events := network.events ++ [event] }

/-- Lets time pass up to a moment. -/
def advance (network : Network) (time : Nat) : Network :=
  -- The clock never goes back.
  { network with now := max network.now time }

/-- How long anybody waits. -/
def waiting (network : Network) : Waiting := ⟨network.patience, network.blocking⟩

/-- The deliveries with which the server reacts to a message. -/
def reaction (network : Network) (request : Int32) : List Delivery :=
  match network.script with
  -- Past its script the server is silent.
  | [] => []
  | behaviour :: _ => behaviour request

/-- The network after a message has reached the server over a connection. -/
def record (network : Network) (connection : Nat) (bytes : Bytes) : Network :=
  -- Each message uses one line of the script up.
  { network with script := network.script.tail, sent := network.sent ++ [(connection, bytes)] }

end Network
end DocWire
