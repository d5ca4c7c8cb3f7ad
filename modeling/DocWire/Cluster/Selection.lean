import DocWire.Cluster.Description

/-! Server selection: which servers of a cluster an operation may go to. -/

namespace DocWire

/-- What an operation asks of the server it goes to. -/
inductive Criteria where
  | preference (preference : ReadPreference)
  | predicate (accepts : ServerDescription → Bool)

/-- The text of the criteria. -/
def Criteria.text : Criteria → String
  | .preference wanted => "ReadPreference " ++ wanted.text
  | .predicate _ => "Custom predicate"

/-- What writes ask: the primary. -/
def Criteria.forWrites : Criteria := .preference .primary

/-- The servers that the first tag set matched by any server leaves; without tag sets, all. -/
def taggedServers (servers : List ServerDescription) (sets : List TagSet) :
    List ServerDescription :=
  -- The sets are tried in order, and later ones do not add to the one that matches.
  if sets.isEmpty then servers
  else
    match sets.find? fun set => servers.any fun server => TagSet.satisfiedBy set server.tags with
    | some set => servers.filter fun server => TagSet.satisfiedBy set server.tags
    | none => []

/-- The lesser of two round trip times, either of which may be missing. -/
def leastRoundTrip (a b : Option Duration) : Option Duration :=
  match a, b with
  | some a, some b => if a.nanoseconds ≤ b.nanoseconds then some a else some b
  | some a, none => some a
  | none, b => b

/-- The servers whose round trip time is within the threshold of the shortest; where none has been
measured, all are as near, and else only a load balancer may go unmeasured. -/
def withinWindow (servers : List ServerDescription) (threshold : Duration) :
    List ServerDescription :=
  match servers.foldl (fun least server => leastRoundTrip least server.roundTrip) none with
  | none => servers
  | some least =>
    -- The threshold is added to the shortest time; the limit itself is still near enough.
    let limit := least.addCapped threshold
    servers.filter fun server =>
      match server.roundTrip with
      | some time => time.nanoseconds ≤ limit.nanoseconds
      | none => server.type == .loadBalancer

namespace ClusterDescription

/-- The servers of one of several types. -/
def ofTypes (cluster : ClusterDescription) (types : List ServerType) : List ServerDescription :=
  cluster.servers.filter fun server => types.contains server.type

/-- The servers of one of several types that the tag sets leave. -/
def tagged (cluster : ClusterDescription) (types : List ServerType) (sets : Option (List TagSet)) :
    List ServerDescription :=
  taggedServers (cluster.ofTypes types) (sets.getD [])

/-- The members of a replica set that suit a preference. -/
def suitableMembers (cluster : ClusterDescription) (preference : ReadPreference) :
    List ServerDescription :=
  let sets := preference.tagSets
  match preference with
  | .primary => cluster.ofTypes [.rsPrimary]
  | .other .secondary _ => cluster.tagged [.rsSecondary] sets
  | .other .primaryPreferred _ =>
    match cluster.ofTypes [.rsPrimary] with
    -- One primary is enough, and tags do not matter to it.
    | primary :: _ => [primary]
    | [] => cluster.tagged [.rsSecondary] sets
  | .other .secondaryPreferred _ =>
    match cluster.tagged [.rsSecondary] sets with
    -- The primary stands in whatever its tags.
    | [] => cluster.ofTypes [.rsPrimary]
    | secondaries => secondaries
  | .other .nearest _ => cluster.tagged [.rsPrimary, .rsSecondary] sets

/-- The servers that suit a preference, in any kind of deployment. -/
def suitable (cluster : ClusterDescription) (preference : ReadPreference) :
    List ServerDescription :=
  match cluster.type with
  | .unknown => []
  -- With a single way in there is nothing to prefer.
  | .single | .loadBalanced => cluster.servers.filter (·.type.isAvailable)
  | .sharded => cluster.ofTypes [.mongos]
  | .replicaSetWithPrimary | .replicaSetNoPrimary => cluster.suitableMembers preference

/-- The servers that a predicate accepts; only a single server need not hold data. -/
def accepted (cluster : ClusterDescription) (accepts : ServerDescription → Bool) :
    List ServerDescription :=
  cluster.servers.filter fun server =>
    (cluster.type == .single || server.type.holdsData) && accepts server

/-- The servers that meet the criteria, near or far. -/
def candidates (cluster : ClusterDescription) (criteria : Criteria) : List ServerDescription :=
  match criteria with
  | .preference preference => cluster.suitable preference
  | .predicate accepts => cluster.accepted accepts

/-- The servers that an operation may go to. -/
def eligible (cluster : ClusterDescription) (criteria : Criteria) (threshold : Duration) :
    List ServerDescription :=
  withinWindow (cluster.candidates criteria) threshold

end ClusterDescription
end DocWire
