import DocWire.Cluster.Selection
import DocWire.Connection.Description
import DocWire.Error.Basic
import DocWire.ServerApi

/-! Topologies: the servers that are published, and selections that wait for a suitable one. -/

namespace DocWire

/-- A server that connections can be made to. -/
structure Server where
  description : ServerDescription
  connection : ConnectionDescription
  hungUp : Bool := false
  refuses : Bool := false
deriving Repr, Inhabited

/-- The address of the server. -/
def Server.address (server : Server) : Address := server.description.address

/-- A cluster as it is published. -/
structure Topology where
  type : TopologyType
  servers : List Server := []
  options : TopologyOptions := {}
deriving Repr, Inhabited

/-- A change that is published. -/
inductive Publication where
  | upsert (server : Server)
  | remove (address : Address)
  | setType (type : TopologyType)
deriving Repr, Inhabited

/-- The servers with one more, in the place of the one at the same address. -/
def upsertServer (server : Server) : List Server → List Server
  | [] => [server]
  | other :: rest =>
    -- An address without a port is the same as one with the default port.
    if other.address.same server.address then server :: rest else other :: upsertServer server rest

namespace Topology

/-- The topology after a change. -/
def publish (topology : Topology) : Publication → Topology
  | .upsert server => { topology with servers := upsertServer server topology.servers }
  | .remove address =>
    { topology with servers := topology.servers.filter fun server => !server.address.same address }
  | .setType type => { topology with type }

/-- What is known of the cluster, the servers by their addresses. -/
def description (topology : Topology) : ClusterDescription where
  type := topology.type
  -- The order of publication is not told.
  servers := (topology.servers.map (·.description)).mergeSort
    fun a b => a.address.text ≤ b.address.text

/-- The descriptions of the servers that meet the criteria. -/
def eligible (topology : Topology) (criteria : Criteria) : List ServerDescription :=
  topology.description.eligible criteria topology.options.threshold

/-- The server at an address. -/
def server? (topology : Topology) (address : Address) : Option Server :=
  topology.servers.find? fun server => server.address.same address

/-- The servers that a selection may return now. -/
def selectable (topology : Topology) (criteria : Criteria) : List Server :=
  (topology.eligible criteria).filterMap fun server => topology.server? server.address

/-- The fault of a selection that runs out of time. -/
def fault (topology : Topology) (criteria : Criteria) : SelectionFault :=
  ⟨criteria.text, topology.description⟩

end Topology

/-- What a selection comes to, with the topology as it is then: servers that were found at a moment,
the end of its time, or a wait that outlasts everybody's patience. -/
inductive Selection where
  | found (time : Nat) (topology : Topology) (servers : List Server)
  | timedOut (topology : Topology)
  | outlasted (topology : Topology)
deriving Repr, Inhabited

/-- How long a selection may take: up to a deadline of its own, or up to the moment at which nobody
waits for it any longer. -/
structure SelectionLimits where
  deadline : Nat
  patience : Nat
deriving Repr, Inhabited

namespace SelectionLimits

/-- Whether what is published at a moment is published while the selection goes on. -/
def allows (limits : SelectionLimits) (time : Nat) : Bool :=
  -- A wait that is over at the deadline never sees what comes then.
  time < limits.deadline && time ≤ limits.patience

/-- What a selection comes to that never finds a server. -/
def unmet (limits : SelectionLimits) (topology : Topology) : Selection :=
  if limits.deadline ≤ limits.patience then .timedOut topology else .outlasted topology

/-- What a selection comes to at once, or else later. -/
def settle (limits : SelectionLimits) (time : Nat) (topology : Topology) (servers : List Server)
    (later : Selection) : Selection :=
  -- What is found at the last moment is found when nobody looks any more.
  if servers.isEmpty || limits.patience ≤ time then later else .found time topology servers

end SelectionLimits

/-- Selects among the servers that are published from a moment on; each publication comes at a
moment, and those after the limits come too late. -/
def Topology.select (topology : Topology) (criteria : Criteria) (limits : SelectionLimits)
    (now : Nat) : List (Nat × Publication) → Selection
  | [] => limits.settle now topology (topology.selectable criteria) (limits.unmet topology)
  | (time, publication) :: later =>
    limits.settle now topology (topology.selectable criteria)
      (if limits.allows time then (topology.publish publication).select criteria limits time later
      else limits.unmet topology)

end DocWire
