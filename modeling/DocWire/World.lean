import DocWire.Cluster.Topology
import DocWire.Connection.Exchange
import DocWire.Table

/-! The world that operations work in: the connections, sessions, pools, topologies and counts that
are shared, and the network. -/

namespace DocWire

/-- All that operations share. -/
structure World where
  network : Network := {}
  connections : Table Connection := {}
  sessions : Table ClientSession := {}
  pools : Table SessionPool := {}
  topologies : Table Topology := {}
  counts : Table References := {}
  nextConnection : Nat := 1
  nextSession : Nat := 0
  nextKey : Nat := 0
  choice : Nat := 0
deriving Inhabited

/-- Work on the world. -/
abbrev Act := ExceptT Halt (StateM World)

namespace Act

/-- Ends the work with a cause. -/
def fail {α : Type} (cause : Cause) : Act α := throw (.ofCause cause)

/-- Goes on with a value, or ends the work with a cause. -/
def check {α : Type} : Except Cause α → Act α
  | .ok value => pure value
  | .error cause => fail cause

/-- Goes on with a value, or ends the work because something was used after its time. -/
def checkLifecycle {α : Type} : Except LifecycleFault α → Act α
  | .ok value => pure value
  | .error fault => fail (.lifecycle fault)

/-- Reports an event. -/
def emit (event : Event) : Act Unit :=
  modify fun world => { world with network := world.network.emit event }

/-- Does the work, and hands on how it ended. -/
def attempt {α : Type} (work : Act α) : Act (Except Halt α) := fun world =>
  -- The end becomes a value, so what the work did to the world stands.
  let (result, world) := work world
  (.ok result, world)

/-- Goes on with an end that was handed on. -/
def resume {α : Type} : Except Halt α → Act α
  | .ok value => pure value
  | .error halt => throw halt

/-- Does both, and fails as the first of them that failed. -/
def both (first second : Act Unit) : Act Unit := do
  -- The second runs even when the first has failed.
  let firstEnd ← attempt first
  let secondEnd ← attempt second
  resume firstEnd
  resume secondEnd

/-- A number that stands for nothing yet. -/
def freshKey : Act Nat := do
  let world ← get
  set { world with nextKey := world.nextKey + 1 }
  return world.nextKey

end Act

namespace World

/-- The line of a connection, under a session and with a payload. -/
def line (world : World) (connection : Nat) (session : Option Nat) (payload : Option Payload) :
    Line where
  connection := world.connections.get connection
  session := session.map world.sessions.get
  payload := payload
  network := world.network

/-- The world after the line of a connection has been worked on. -/
def putLine (world : World) (connection : Nat) (session : Option Nat) (line : Line) : World :=
  { world with
    network := line.network
    connections := world.connections.set connection line.connection
    sessions := match session, line.session with
      -- Without a session there is nothing to put back.
      | some key, some value => world.sessions.set key value
      | _, _ => world.sessions }

end World

namespace Act

/-- Works on a connection, under a session and with a payload, and hands the payload back. -/
def onLine {α : Type} (connection : Nat) (session : Option Nat) (payload : Option Payload)
    (work : Exchange α) : Act (Except Halt α × Option Payload) := fun world =>
  -- The line is put back however the work ended.
  let (result, line) := work (world.line connection session payload)
  (.ok (result, line.payload), world.putLine connection session line)

/-- Works on a connection, under a session. -/
def exchange {α : Type} (connection : Nat) (session : Option Nat) (work : Exchange α) : Act α := do
  let (result, _) ← onLine connection session none work
  resume result

/-- Changes a connection. -/
def modifyLine (connection : Nat) (change : Line → Line) : Act Unit :=
  exchange connection none (modify change)

/-- Changes a connection, or ends the work with a cause. -/
def changeLine (connection : Nat) (change : Line → Except Cause Line) : Act Unit :=
  exchange connection none do set (← Exchange.check (change (← get)))

/-- Makes a connection to a server; the maker holds the first reference. -/
def connect (description : ConnectionDescription) (hungUp : Bool) : Act Nat := do
  let world ← get
  -- Connections are numbered from one, across all servers.
  let number := world.nextConnection
  let id : ConnectionId := ⟨description.address, number⟩
  let connection : Connection := { id, description, channel := some { hungUp } }
  set { world with
    nextConnection := number + 1
    connections := world.connections.set number connection }
  emit (.connectionCreated id description.wireVersion)
  return number

/-- Takes one more reference to a connection. -/
def retainConnection (connection : Nat) : Act Unit := changeLine connection Line.retain

/-- Gives a reference to a connection up. -/
def releaseConnection (connection : Nat) : Act Unit := changeLine connection Line.release

/-- Closes a connection. -/
def closeConnection (connection : Nat) : Act Unit := modifyLine connection (·.close .asked)

/-- A pool without sessions. -/
def createPool : Act Nat := do
  let key ← freshKey
  modify fun world => { world with pools := world.pools.set key {} }
  return key

/-- Takes a session out of a pool, or a new one when the pool is empty. -/
def checkOut (pool : Nat) : Act ServerSession := do
  let world ← get
  match (world.pools.get pool).checkOut with
  | some (session, rest) =>
    -- A session that was used before serves again.
    set { world with pools := world.pools.set pool rest }
    return session
  | none =>
    set { world with nextSession := world.nextSession + 1 }
    return ⟨world.nextSession⟩

/-- Gives a session back to a pool. -/
def checkIn (pool : Nat) (session : ServerSession) : Act Unit :=
  modify fun world =>
    { world with pools := world.pools.set pool ((world.pools.get pool).checkIn session) }

/-- Starts a session of a client. -/
def startSession (pool : Nat) (causal : Bool) : Act Nat := do
  let server ← checkOut pool
  let key ← freshKey
  let session : ClientSession := { server, pool, causal }
  modify fun world => { world with sessions := world.sessions.set key session }
  return key

/-- Closes a session of a client, whose server session goes back to its pool. -/
def closeSession (session : Nat) : Act Unit := do
  let world ← get
  let client := world.sessions.get session
  -- A session that is closed already gives nothing back a second time.
  let closed ← checkLifecycle client.close
  set { world with sessions := world.sessions.set session closed }
  checkIn client.pool client.server

/-- Refuses a session that is closed. -/
def ensureUsable (session : Nat) : Act Unit := do
  checkLifecycle ((← get).sessions.get session).ensureUsable

/-- Keeps a topology as it is now. -/
def setTopology (topology : Nat) (current : Topology) : Act Unit :=
  modify fun world => { world with topologies := world.topologies.set topology current }

/-- Changes what is published of a cluster. -/
def publish (topology : Nat) (change : Publication) : Act Unit := do
  let world ← get
  setTopology topology ((world.topologies.get topology).publish change)

/-- Makes a connection to a server that takes connections. -/
def connectTo (server : Server) : Act Nat :=
  if server.refuses then fail (.stream .refused) else connect server.connection server.hungUp

/-- Lets time pass up to a moment. -/
def advance (time : Nat) : Act Unit :=
  modify fun world => { world with network := world.network.advance time }

/-- Ends the work because nobody waits any longer. -/
def dropWork {α : Type} : Act α := do
  advance (← get).network.patience
  throw .dropped

/-- Selects servers while changes are published; nobody waits longer than their patience. -/
def selectAmong (topology : Nat) (criteria : Criteria) (publications : List (Nat × Publication)) :
    Act (List Server) := do
  let world ← get
  let current := world.topologies.get topology
  let start := world.network.now
  emit (.selectionStarted criteria.text current.description.text)
  -- Waiting is reported only when no server meets the criteria at the start.
  if (current.selectable criteria).isEmpty then emit (.selectionWaiting criteria.text)
  let deadline := start + current.options.timeout.millis
  match current.select criteria ⟨deadline, world.network.patience⟩ start publications with
  | .found time current servers =>
    setTopology topology current
    advance time
    return servers
  | .timedOut current =>
    setTopology topology current
    advance deadline
    emit (.selectionFailed criteria.text)
    fail (.selection (current.fault criteria))
  -- What was published meanwhile stays published.
  | .outlasted current =>
    setTopology topology current
    dropWork

/-- Settles on one of the servers that a selection found, and reports it. -/
def settleOn (criteria : Criteria) (servers : List Server) : Act Server := do
  -- The choice is any number; it is taken around the list as often as it goes.
  match servers[(← get).choice % servers.length]? with
  | some server =>
    emit (.selectionSucceeded criteria.text server.address)
    return server
  | none => dropWork

/-- Selects one server among those that meet the criteria. -/
def select (topology : Nat) (criteria : Criteria) : Act Server := do
  let servers ← selectAmong topology criteria []
  settleOn criteria servers

end Act
end DocWire
