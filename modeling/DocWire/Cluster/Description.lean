import DocWire.Address
import DocWire.Duration
import DocWire.ReadPreference

/-! What is known of the servers of a cluster. -/

namespace DocWire

/-- The part that a server plays. -/
inductive ServerType where
  | standalone
  | mongos
  | rsPrimary
  | rsSecondary
  | rsArbiter
  | rsOther
  | rsGhost
  | loadBalancer
  | unknown
deriving DecidableEq, Repr, Inhabited

namespace ServerType

/-- The name of the type in documents. -/
def name : ServerType → String
  | standalone => "Standalone" | mongos => "Mongos" | rsPrimary => "RSPrimary"
  | rsSecondary => "RSSecondary" | rsArbiter => "RSArbiter" | rsOther => "RSOther"
  | rsGhost => "RSGhost" | loadBalancer => "LoadBalancer" | unknown => "Unknown"

/-- The name of the type in descriptions. -/
def title : ServerType → String
  | standalone => "Standalone" | mongos => "Mongos" | rsPrimary => "RsPrimary"
  | rsSecondary => "RsSecondary" | rsArbiter => "RsArbiter" | rsOther => "RsOther"
  | rsGhost => "RsGhost" | loadBalancer => "LoadBalancer" | unknown => "Unknown"

/-- Every type. -/
def all : List ServerType :=
  [standalone, mongos, rsPrimary, rsSecondary, rsArbiter, rsOther, rsGhost, loadBalancer, unknown]

/-- The type with a name. -/
def ofName? (name : String) : Option ServerType := all.find? (·.name == name)

/-- Whether servers of this type hold data. -/
def holdsData : ServerType → Bool
  | standalone | mongos | rsPrimary | rsSecondary | loadBalancer => true
  | rsArbiter | rsOther | rsGhost | unknown => false

/-- Whether anything is known of servers of this type. -/
def isAvailable : ServerType → Bool
  -- Even a server that holds no data has been seen.
  | unknown => false
  | _ => true

end ServerType

/-- The kind of deployment that the servers make up. -/
inductive TopologyType where
  | single
  | replicaSetNoPrimary
  | replicaSetWithPrimary
  | sharded
  | loadBalanced
  | unknown
deriving DecidableEq, Repr, Inhabited

namespace TopologyType

/-- The name of the type. -/
def name : TopologyType → String
  | single => "Single" | replicaSetNoPrimary => "ReplicaSetNoPrimary"
  | replicaSetWithPrimary => "ReplicaSetWithPrimary" | sharded => "Sharded"
  | loadBalanced => "LoadBalanced" | unknown => "Unknown"

/-- Every type. -/
def all : List TopologyType :=
  [single, replicaSetNoPrimary, replicaSetWithPrimary, sharded, loadBalanced, unknown]

/-- The type with a name. -/
def ofName? (name : String) : Option TopologyType := all.find? (·.name == name)

end TopologyType

/-- The name that a value gives one of several choices: a text, or a document of one field, in
which any value may stand. -/
def choiceName? : RawValue → Option String
  | .atom (.string name) => some name
  | .document [(name, value)] => value.any?.map fun _ => name
  | _ => none

/-- What is known of one server. -/
structure ServerDescription where
  address : Address
  type : ServerType := .unknown
  roundTrip : Option Duration := none
  tags : TagSet := []
deriving DecidableEq, Repr, Inhabited

/-- The address, the type and what else is known, in braces. -/
def ServerDescription.text (server : ServerDescription) : String :=
  let roundTrip := match server.roundTrip with
    | none => ""
    | some time => ", Average RTT: " ++ time.text
  -- Nothing is said of what is not known.
  let tags := if server.tags.isEmpty then "" else ", Tags: " ++ server.tags.text
  "\x7b Address: " ++ server.address.text ++ ", Type: " ++ server.type.title ++ roundTrip ++ tags ++
    " \x7d"

/-- What is known of a whole cluster. -/
structure ClusterDescription where
  type : TopologyType
  servers : List ServerDescription
deriving DecidableEq, Repr, Inhabited

namespace ClusterDescription

/-- Whether anything is known of any server. -/
def hasAvailableServer (cluster : ClusterDescription) : Bool :=
  cluster.servers.any (·.type.isAvailable)

/-- The type and the servers, in braces. -/
def text (cluster : ClusterDescription) : String :=
  let servers :=
    if cluster.servers.isEmpty then ""
    else ", Servers: [ " ++ String.intercalate ", " (cluster.servers.map (·.text)) ++ " ]"
  "\x7b Type: " ++ cluster.type.name ++ servers ++ " \x7d"

end ClusterDescription
end DocWire
