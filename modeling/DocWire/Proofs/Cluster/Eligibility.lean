import Mathlib.Order.Bounds.Basic
import Mathlib.Order.WellFounded
import DocWire.Cluster.Selection

/-! Which servers an operation may go to, told by rules: one rule for each kind of deployment and
each read mode says who is a candidate, tag sets narrow the candidates down, and of these the
servers that are near enough are left. The servers that a selection finds are just those. -/

namespace DocWire

/-- The server has every tag of the set. -/
def ServerDescription.Carries (server : ServerDescription) (set : TagSet) : Prop :=
  ∀ tag ∈ set, tag ∈ server.tags

/-- Of some servers, the tag sets leave the server: there is none to choose by, or it carries the
first set that any of the servers carries. -/
inductive Tagged (sets : Option (List TagSet)) (among : ServerDescription → Prop)
    (server : ServerDescription) : Prop where
  | free (unasked : sets = none ∨ sets = some []) (there : among server)
  | chosen {front back : List TagSet} {set : TagSet} (asked : sets = some (front ++ set :: back))
    (passed : ∀ earlier ∈ front, ∀ other, among other → ¬ other.Carries earlier)
    (there : among server) (carries : server.Carries set)

theorem Tagged.there {sets : Option (List TagSet)} {among : ServerDescription → Prop}
    {server : ServerDescription} (tagged : Tagged sets among server) : among server := by
  cases tagged with
  | free unasked there => exact there
  | chosen asked passed there carries => exact there

/-- The round trip times that were measured of some servers, in nanoseconds. -/
def measuredTimes (among : ServerDescription → Prop) : Set Nat :=
  { time | ∃ server, among server ∧ server.roundTrip = some ⟨time⟩ }

/-- The server is near enough among some servers: its round trip time is within the threshold of the
shortest one, or it is a load balancer of which none was measured, or none was measured at all. -/
inductive Near (among : ServerDescription → Prop) (threshold : Duration)
    (server : ServerDescription) : Prop where
  | within {least time : Nat} (shortest : IsLeast (measuredTimes among) least)
    (measured : server.roundTrip = some ⟨time⟩) (close : time ≤ least + threshold.nanoseconds)
  | balancer (unmeasured : server.roundTrip = none) (balances : server.type = .loadBalancer)
  | unmeasured (none : measuredTimes among = ∅)

namespace ClusterDescription

variable (cluster : ClusterDescription)

/-- The server is one of the cluster, of the type. -/
def Lists (type : ServerType) (server : ServerDescription) : Prop :=
  server ∈ cluster.servers ∧ server.type = type

/-- The member of a replica set suits the read preference. -/
inductive Suits : ReadPreference → ServerDescription → Prop where
  | primary {server : ServerDescription} (main : cluster.Lists .rsPrimary server) :
    Suits .primary server
  | secondary {options : Option ReadOptions} {server : ServerDescription}
    (tagged : Tagged (options.bind (·.tagSets)) (cluster.Lists .rsSecondary) server) :
    Suits (.other .secondary options) server
  | preferredPrimary {options : Option ReadOptions} {server : ServerDescription}
    (main : cluster.Lists .rsPrimary server) : Suits (.other .primaryPreferred options) server
  | forPrimary {options : Option ReadOptions} {server : ServerDescription}
    (missing : ∀ other, ¬ cluster.Lists .rsPrimary other)
    (tagged : Tagged (options.bind (·.tagSets)) (cluster.Lists .rsSecondary) server) :
    Suits (.other .primaryPreferred options) server
  | preferredSecondary {options : Option ReadOptions} {server : ServerDescription}
    (tagged : Tagged (options.bind (·.tagSets)) (cluster.Lists .rsSecondary) server) :
    Suits (.other .secondaryPreferred options) server
  | forSecondary {options : Option ReadOptions} {server : ServerDescription}
    (missing : ∀ other,
      ¬ Tagged (options.bind (·.tagSets)) (cluster.Lists .rsSecondary) other)
    (main : cluster.Lists .rsPrimary server) : Suits (.other .secondaryPreferred options) server
  | nearest {options : Option ReadOptions} {server : ServerDescription}
    (tagged : Tagged (options.bind (·.tagSets))
      (fun other => cluster.Lists .rsPrimary other ∨ cluster.Lists .rsSecondary other) server) :
    Suits (.other .nearest options) server

/-- The server meets the criteria, near or far. In a deployment of which nothing is known, no server
meets a read preference. -/
inductive Candidate : Criteria → ServerDescription → Prop where
  | only {preference : ReadPreference} {server : ServerDescription}
    (lone : cluster.type = .single ∨ cluster.type = .loadBalanced)
    (listed : server ∈ cluster.servers) (available : server.type ≠ .unknown) :
    Candidate (.preference preference) server
  | router {preference : ReadPreference} {server : ServerDescription}
    (sharded : cluster.type = .sharded) (listed : cluster.Lists .mongos server) :
    Candidate (.preference preference) server
  | member {preference : ReadPreference} {server : ServerDescription}
    (replicated : cluster.type = .replicaSetWithPrimary ∨ cluster.type = .replicaSetNoPrimary)
    (suits : cluster.Suits preference server) : Candidate (.preference preference) server
  | accepted {accepts : ServerDescription → Bool} {server : ServerDescription}
    (listed : server ∈ cluster.servers)
    (bears : cluster.type = .single ∨ server.type.holdsData = true)
    (taken : accepts server = true) : Candidate (.predicate accepts) server

/-- The server may be selected: it meets the criteria, and is near enough among those that do. -/
def MayServe (criteria : Criteria) (threshold : Duration) (server : ServerDescription) : Prop :=
  cluster.Candidate criteria server ∧ Near (cluster.Candidate criteria) threshold server

/-- The cluster has at most one primary, and no time that was measured of it is longer than a length
of time can be. -/
structure WellFormed : Prop where
  onePrimary : ∀ first second, cluster.Lists .rsPrimary first → cluster.Lists .rsPrimary second →
    first = second
  lasting : ∀ server ∈ cluster.servers, ∀ time, server.roundTrip = some time →
    time.nanoseconds ≤ Duration.longest.nanoseconds

end ClusterDescription

section Tags

variable {servers : List ServerDescription} {server : ServerDescription}

theorem ServerDescription.carries_iff {set : TagSet} :
    server.Carries set ↔ TagSet.satisfiedBy set server.tags = true := by
  simp [Carries, TagSet.satisfiedBy]

/-- Tag sets that are tried in order leave the servers that carry the first set of any use. -/
theorem mem_taggedServers {sets : Option (List TagSet)} :
    server ∈ taggedServers servers (sets.getD []) ↔ Tagged sets (· ∈ servers) server := by
  -- A set is of use when any of the servers carries it.
  have useful (set : TagSet) :
      (servers.any fun other => TagSet.satisfiedBy set other.tags) = true ↔
        ∃ other ∈ servers, other.Carries set := by
    simp [ServerDescription.carries_iff]
  unfold taggedServers
  constructor
  · intro left
    split at left
    · rename_i unasked
      refine .free ?_ left
      rcases sets with _ | sets
      · exact .inl rfl
      · exact .inr (congrArg some (by simpa using unasked))
    · rcases sets with _ | sets
      · rename_i asked
        exact absurd rfl asked
      · split at left
        · rename_i set found
          obtain ⟨-, front, back, rfl, passed⟩ := List.find?_eq_some_iff_append.mp found
          obtain ⟨there, carries⟩ := List.mem_filter.mp left
          refine .chosen rfl ?_ there (ServerDescription.carries_iff.mpr carries)
          intro earlier before other among carried
          have unused := passed earlier before
          rw [(useful earlier).mpr ⟨other, among, carried⟩] at unused
          cases unused
        · cases left
  · rintro (⟨unasked, there⟩ | ⟨rfl, passed, there, carries⟩)
    · -- Without a set, nothing is looked at.
      rcases unasked with rfl | rfl <;> exact there
    · rename_i front back set
      have found : (front ++ set :: back).find? (fun set =>
          servers.any fun other => TagSet.satisfiedBy set other.tags) = some set := by
        refine List.find?_eq_some_iff_append.mpr
          ⟨(useful set).mpr ⟨server, there, carries⟩, front, back, rfl, ?_⟩
        intro earlier before
        rw [Bool.not_eq_true', ← Bool.not_eq_true, useful]
        rintro ⟨other, among, carried⟩
        exact passed earlier before other among carried
      simp only [Option.getD_some, List.isEmpty_iff, List.append_eq_nil_iff, reduceCtorEq,
        and_false, if_false, found]
      exact List.mem_filter.mpr ⟨there, ServerDescription.carries_iff.mp carries⟩

end Tags

section Window

/-- The shortest of some times, or nothing when there are none. -/
def Shortest (times : Set Nat) : Option Duration → Prop
  | none => times = ∅
  | some least => IsLeast times least.nanoseconds

theorem shortest_single (time : Option Duration) : Shortest { n | time = some ⟨n⟩ } time := by
  -- Of one time that was measured, the shortest is this one.
  cases time with
  | none => simp [Shortest]
  | some time =>
    have alone : { n | some time = some (⟨n⟩ : Duration) } = {time.nanoseconds} := by
      ext n
      constructor
      · rintro ⟨⟩
        rfl
      · rintro rfl
        rfl
    rw [alone]
    exact isLeast_singleton

/-- The lesser of two times is the shortest of all times of which each is the shortest of some. -/
theorem shortest_union {first second : Set Nat} {a b : Option Duration}
    (one : Shortest first a) (two : Shortest second b) :
    Shortest (first ∪ second) (leastRoundTrip a b) := by
  -- Where one side has no times, the other decides alone.
  cases a with
  | none =>
    obtain rfl : first = ∅ := one
    rw [Set.empty_union]
    cases b <;> exact two
  | some a =>
    cases b with
    | none =>
      obtain rfl : second = ∅ := two
      rw [Set.union_empty]
      exact one
    | some b =>
      have both := IsLeast.union one two
      unfold leastRoundTrip
      dsimp only
      split
      · rename_i less
        rwa [min_eq_left less] at both
      · rename_i more
        rwa [min_eq_right (Nat.le_of_not_le more)] at both

/-- One server after another, the shortest time is kept. -/
theorem shortest_foldl (servers : List ServerDescription) {times : Set Nat}
    {start : Option Duration} (so : Shortest times start) :
    Shortest (times ∪ measuredTimes (· ∈ servers))
      (servers.foldl (fun least server => leastRoundTrip least server.roundTrip) start) := by
  -- By induction on the servers: each adds the one time that was measured of it, or none.
  induction servers generalizing times start with
  | nil =>
    have none : measuredTimes (· ∈ ([] : List ServerDescription)) = ∅ := by
      simp [measuredTimes]
    rw [none, Set.union_empty]
    exact so
  | cons server rest ih =>
    have split : measuredTimes (· ∈ server :: rest)
        = { n | server.roundTrip = some ⟨n⟩ } ∪ measuredTimes (· ∈ rest) := by
      ext n
      simp [measuredTimes]
    rw [split, ← Set.union_assoc]
    exact ih (shortest_union so (shortest_single server.roundTrip))

variable {servers : List ServerDescription} {threshold : Duration} {server : ServerDescription}

/-- Where no time is longer than a length of time can be, the limit of the window is the sum itself
for every time that is compared with it. -/
theorem le_addCapped_iff {time least : Duration}
    (lasting : time.nanoseconds ≤ Duration.longest.nanoseconds) :
    time.nanoseconds ≤ (least.addCapped threshold).nanoseconds ↔
      time.nanoseconds ≤ least.nanoseconds + threshold.nanoseconds := by
  simp only [Duration.addCapped, Nat.le_min]
  exact and_iff_left lasting

/-- The window leaves the servers that are near enough. -/
theorem mem_withinWindow
    (lasting : ∀ server ∈ servers, ∀ time, server.roundTrip = some time →
      time.nanoseconds ≤ Duration.longest.nanoseconds) :
    server ∈ withinWindow servers threshold ↔
      server ∈ servers ∧ Near (· ∈ servers) threshold server := by
  -- Either nothing was measured, and nobody leaves, or each server is held to the shortest time.
  have shortest : Shortest (measuredTimes (· ∈ servers))
      (servers.foldl (fun least server => leastRoundTrip least server.roundTrip) none) := by
    have := shortest_foldl servers (shortest_single none)
    simpa using this
  unfold withinWindow
  split
  · rename_i untimed
    rw [untimed] at shortest
    exact ⟨fun there => ⟨there, .unmeasured shortest⟩, And.left⟩
  · rename_i least timed
    rw [timed] at shortest
    rw [List.mem_filter]
    refine and_congr_right fun there => ?_
    cases measured : server.roundTrip with
    | some time =>
      simp only [decide_eq_true_eq, le_addCapped_iff (lasting server there time measured)]
      constructor
      · exact .within shortest measured
      · rintro (⟨other, same, close⟩ | ⟨unmeasured, -⟩ | none)
        · rw [measured] at same
          cases same
          rwa [shortest.unique other]
        · rw [measured] at unmeasured
          cases unmeasured
        · rw [none] at shortest
          cases shortest.1
    | none =>
      simp only [beq_iff_eq]
      constructor
      · exact .balancer measured
      · rintro (⟨-, same, -⟩ | ⟨-, balances⟩ | none)
        · rw [measured] at same
          cases same
        · exact balances
        · rw [none] at shortest
          cases shortest.1

/-- Among any servers there is one that is near enough. -/
theorem exists_near {among : ServerDescription → Prop} (threshold : Duration)
    (some : ∃ server, among server) : ∃ server, among server ∧ Near among threshold server := by
  rcases Set.eq_empty_or_nonempty (measuredTimes among) with none | measured
  · obtain ⟨server, there⟩ := some
    exact ⟨server, there, .unmeasured none⟩
  · -- The server with the shortest time is within any threshold of it.
    obtain ⟨least, ⟨server, there, timed⟩, shortest⟩ := wellFounded_lt.has_min _ measured
    have first : IsLeast (measuredTimes among) least :=
      ⟨⟨server, there, timed⟩, fun time other => Nat.le_of_not_lt (shortest time other)⟩
    exact ⟨server, there, .within first timed (Nat.le_add_right _ _)⟩

end Window

namespace ClusterDescription

variable {cluster : ClusterDescription} {server : ServerDescription} {criteria : Criteria}
  {threshold : Duration}

theorem mem_ofTypes {types : List ServerType} :
    server ∈ cluster.ofTypes types ↔ ∃ type ∈ types, cluster.Lists type server := by
  simp [ofTypes, Lists, and_comm]

theorem mem_tagged {types : List ServerType} {sets : Option (List TagSet)} :
    server ∈ cluster.tagged types sets ↔
      Tagged sets (fun other => ∃ type ∈ types, cluster.Lists type other) server := by
  simp only [tagged, mem_taggedServers, mem_ofTypes]

theorem mem_primaries :
    server ∈ cluster.ofTypes [.rsPrimary] ↔ cluster.Lists .rsPrimary server := by
  simp [mem_ofTypes]

theorem mem_secondaries {sets : Option (List TagSet)} :
    server ∈ cluster.tagged [.rsSecondary] sets ↔
      Tagged sets (cluster.Lists .rsSecondary) server := by
  simp [mem_tagged]

/-- A secondary is taken just when there is no primary. Of the primaries one is taken, which is the
only one. -/
theorem mem_primaryPreferred (sound : cluster.WellFormed)
    {options : Option ReadOptions} :
    server ∈ cluster.suitableMembers (.other .primaryPreferred options) ↔
      cluster.Suits (.other .primaryPreferred options) server := by
  simp only [suitableMembers, ReadPreference.tagSets]
  cases found : cluster.ofTypes [.rsPrimary] with
  | nil =>
    have missing : ∀ other, ¬ cluster.Lists .rsPrimary other := by
      intro other main
      rw [← mem_primaries, found] at main
      cases main
    rw [mem_secondaries]
    exact ⟨.forPrimary missing, fun
      | .preferredPrimary main => absurd main (missing _)
      | .forPrimary _ tagged => tagged⟩
  | cons first rest =>
    have main : cluster.Lists .rsPrimary first := by
      rw [← mem_primaries, found]
      exact List.mem_cons_self ..
    rw [List.mem_singleton]
    refine ⟨?_, fun
      | .preferredPrimary other => sound.onePrimary _ _ other main
      | .forPrimary missing _ => absurd main (missing _)⟩
    rintro rfl
    exact .preferredPrimary main

/-- The primary is taken just when no secondary has the tags. -/
theorem mem_secondaryPreferred {options : Option ReadOptions} :
    server ∈ cluster.suitableMembers (.other .secondaryPreferred options) ↔
      cluster.Suits (.other .secondaryPreferred options) server := by
  simp only [suitableMembers, ReadPreference.tagSets]
  cases found : cluster.tagged [.rsSecondary] (options.bind (·.tagSets)) with
  | nil =>
    -- Nobody was found, so there is nobody with the tags to prefer.
    have missing : ∀ other,
        ¬ Tagged (options.bind (·.tagSets)) (cluster.Lists .rsSecondary) other := by
      intro other tagged
      rw [← mem_secondaries, found] at tagged
      cases tagged
    rw [mem_primaries]
    exact ⟨.forSecondary missing, fun
      | .preferredSecondary tagged => absurd tagged (missing _)
      | .forSecondary _ main => main⟩
  | cons first rest =>
    show server ∈ first :: rest ↔ _
    rw [← found, mem_secondaries]
    refine ⟨.preferredSecondary, fun
      | .preferredSecondary tagged => tagged
      | .forSecondary missing _ => absurd ?_ (missing first)⟩
    rw [← mem_secondaries, found]
    exact List.mem_cons_self ..

/-- The members that are found suitable are those that suit the preference. -/
theorem mem_suitableMembers (sound : cluster.WellFormed) {preference : ReadPreference} :
    server ∈ cluster.suitableMembers preference ↔ cluster.Suits preference server := by
  cases preference with
  | primary =>
    rw [suitableMembers, mem_primaries]
    exact ⟨.primary, fun | .primary main => main⟩
  | other mode options =>
    cases mode with
    | secondary =>
      simp only [suitableMembers, mem_secondaries, ReadPreference.tagSets]
      exact ⟨.secondary, fun | .secondary tagged => tagged⟩
    | primaryPreferred => exact mem_primaryPreferred sound
    | secondaryPreferred => exact mem_secondaryPreferred
    | nearest =>
      -- Both kinds of members go through the tags together.
      have members : ∀ other, other ∈ cluster.tagged [.rsPrimary, .rsSecondary]
          (options.bind (·.tagSets)) ↔ Tagged (options.bind (·.tagSets))
            (fun other => cluster.Lists .rsPrimary other ∨ cluster.Lists .rsSecondary other)
            other := by
        simp [mem_tagged]
      simp only [suitableMembers, members, ReadPreference.tagSets]
      exact ⟨.nearest, fun | .nearest tagged => tagged⟩

/-- The servers that are found to meet the criteria are the candidates. -/
theorem mem_candidates (sound : cluster.WellFormed) :
    server ∈ cluster.candidates criteria ↔ cluster.Candidate criteria server := by
  cases criteria with
  | predicate accepts =>
    simp only [candidates, accepted, List.mem_filter, Bool.and_eq_true, Bool.or_eq_true, beq_iff_eq]
    exact ⟨fun ⟨listed, bears, taken⟩ => .accepted listed bears taken,
      fun | .accepted listed bears taken => ⟨listed, bears, taken⟩⟩
  | preference preference =>
    have available : ∀ other, other ∈ cluster.servers.filter (·.type.isAvailable) ↔
        other ∈ cluster.servers ∧ other.type ≠ .unknown := by
      intro other
      rw [List.mem_filter]
      cases other.type <;> simp [ServerType.isAvailable]
    simp only [candidates, suitable]
    -- Each kind of deployment has a rule of its own, and the others do not apply to it.
    cases type : cluster.type with
    | unknown =>
      simp only [List.not_mem_nil, false_iff]
      rintro (⟨lone, -⟩ | ⟨sharded, -⟩ | ⟨replicated, -⟩) <;> simp_all
    | single =>
      rw [available]
      refine ⟨fun ⟨listed, known⟩ => .only (.inl type) listed known, fun
        | .only _ listed known => ⟨listed, known⟩
        | .router sharded _ => ?_
        | .member replicated _ => ?_⟩ <;> simp_all
    | loadBalanced =>
      rw [available]
      refine ⟨fun ⟨listed, known⟩ => .only (.inr type) listed known, fun
        | .only _ listed known => ⟨listed, known⟩
        | .router sharded _ => ?_
        | .member replicated _ => ?_⟩ <;> simp_all
    | sharded =>
      rw [mem_ofTypes]
      refine ⟨fun ⟨kind, among, listed⟩ => .router type ?_, fun
        | .only lone _ _ => ?_
        | .router _ listed => ⟨.mongos, by simp, listed⟩
        | .member replicated _ => ?_⟩ <;> simp_all
    | replicaSetWithPrimary =>
      rw [mem_suitableMembers sound]
      refine ⟨.member (.inl type), fun
        | .only lone _ _ => ?_
        | .router sharded _ => ?_
        | .member _ suits => suits⟩ <;> simp_all
    | replicaSetNoPrimary =>
      rw [mem_suitableMembers sound]
      refine ⟨.member (.inr type), fun
        | .only lone _ _ => ?_
        | .router sharded _ => ?_
        | .member _ suits => suits⟩ <;> simp_all

/-- Whoever is a candidate is one of the cluster. -/
theorem Candidate.listed (candidate : cluster.Candidate criteria server) :
    server ∈ cluster.servers := by
  -- Every rule picks from the servers of the cluster.
  cases candidate with
  | only lone listed available => exact listed
  | router sharded listed => exact listed.1
  | accepted listed bears taken => exact listed
  | member replicated suits =>
    cases suits with
    | primary main | preferredPrimary main | forSecondary missing main => exact main.1
    | secondary tagged | preferredSecondary tagged | forPrimary missing tagged =>
      exact tagged.there.1
    | nearest tagged => exact tagged.there.elim And.left And.left

section Order

variable {other : ClusterDescription}

/-- Who suits a preference does not depend on the order in which the members are listed. -/
theorem Suits.reordered {preference : ReadPreference} (same : other.Lists = cluster.Lists)
    (suits : cluster.Suits preference server) : other.Suits preference server := by
  -- How a server suits is said of what the cluster lists, in whatever order.
  cases suits with
  | primary main => exact .primary (same ▸ main)
  | secondary tagged => exact .secondary (same ▸ tagged)
  | preferredPrimary main => exact .preferredPrimary (same ▸ main)
  | forPrimary missing tagged => exact .forPrimary (same ▸ missing) (same ▸ tagged)
  | preferredSecondary tagged => exact .preferredSecondary (same ▸ tagged)
  | forSecondary missing main => exact .forSecondary (same ▸ missing) (same ▸ main)
  | nearest tagged => exact .nearest (same ▸ tagged)

theorem lists_reordered (same : ∀ server, server ∈ other.servers ↔ server ∈ cluster.servers) :
    other.Lists = cluster.Lists := by
  funext type server
  simp only [Lists, same]

/-- Who is a candidate does not depend on the order in which the servers are listed. -/
theorem Candidate.reordered (type : other.type = cluster.type)
    (same : ∀ server, server ∈ other.servers ↔ server ∈ cluster.servers)
    (candidate : cluster.Candidate criteria server) : other.Candidate criteria server := by
  have lists := lists_reordered same
  cases candidate with
  | only lone listed available => exact .only (type ▸ lone) ((same _).mpr listed) available
  | router sharded listed => exact .router (type ▸ sharded) (lists ▸ listed)
  | member replicated suits => exact .member (type ▸ replicated) (suits.reordered lists)
  | accepted listed bears taken => exact .accepted ((same _).mpr listed) (type ▸ bears) taken

end Order

/-- The servers that an operation may go to are those that the rules name. There is one unless there
is no candidate, and which they are does not depend on the order in which the servers of the cluster
are listed. -/
theorem eligible_iff_mayServe (cluster : ClusterDescription) (criteria : Criteria)
    (threshold : Duration) (sound : cluster.WellFormed) :
    (∀ server, server ∈ cluster.eligible criteria threshold ↔
      cluster.MayServe criteria threshold server) ∧
    (cluster.eligible criteria threshold = [] ↔ ∀ server, ¬ cluster.Candidate criteria server) ∧
    ∀ other : ClusterDescription, other.type = cluster.type →
      (∀ server, server ∈ other.servers ↔ server ∈ cluster.servers) →
      ∀ server, server ∈ other.eligible criteria threshold ↔
        server ∈ cluster.eligible criteria threshold := by
  have ruled {cluster : ClusterDescription} (sound : cluster.WellFormed)
      (server : ServerDescription) : server ∈ cluster.eligible criteria threshold ↔
        cluster.MayServe criteria threshold server := by
    have same : (· ∈ cluster.candidates criteria) = cluster.Candidate criteria := by
      funext other
      exact propext (mem_candidates sound)
    rw [eligible, mem_withinWindow, mem_candidates sound, same]
    · exact .rfl
    · intro other found
      exact sound.lasting other ((mem_candidates sound).mp found).listed
  refine ⟨ruled sound, ?_, ?_⟩
  · constructor
    · intro none server candidate
      -- Of all candidates, one is near enough.
      obtain ⟨found, other, near⟩ := exists_near threshold ⟨server, candidate⟩
      have left := (ruled sound found).mpr ⟨other, near⟩
      rw [none] at left
      cases left
    · intro none
      refine List.eq_nil_iff_forall_not_mem.mpr fun server found => ?_
      exact none server ((ruled sound server).mp found).1
  · intro other type same server
    have lists := lists_reordered same
    have reordered : other.WellFormed := by
      refine ⟨?_, fun server listed => sound.lasting server ((same server).mp listed)⟩
      rw [lists]
      exact sound.onePrimary
    have candidates : other.Candidate criteria = cluster.Candidate criteria := by
      funext server
      refine propext ⟨.reordered type.symm fun server => (same server).symm, ?_⟩
      exact .reordered type same
    rw [ruled reordered, ruled sound, MayServe, MayServe, candidates]

/-- Of three secondaries of which none has the tags that are asked for first, the one that is slow
is passed over, and so is the one that nobody has measured. -/
theorem eligible_iff_mayServe_tagged :
    let member (port : Nat) (type : ServerType) (roundTrip : Option Duration) (tags : TagSet) :
        ServerDescription :=
      { address := ⟨"a", some (UInt16.ofNat port)⟩, type, roundTrip, tags }
    let primary := member 1 .rsPrimary (some (.ofMillis 1)) [("dc", "ny")]
    let near := member 2 .rsSecondary (some (.ofMillis 5)) [("dc", "ny")]
    let slow := member 3 .rsSecondary (some (.ofMillis 25)) [("dc", "ny")]
    let unmeasured := member 4 .rsSecondary none [("dc", "ny")]
    let cluster : ClusterDescription :=
      ⟨.replicaSetWithPrimary, [primary, slow, near, unmeasured]⟩
    let criteria : Criteria :=
      .preference (.other .secondaryPreferred (some ⟨some [[("dc", "la")], [("dc", "ny")]]⟩))
    cluster.WellFormed ∧ cluster.MayServe criteria (.ofMillis 15) near ∧
      ¬ cluster.MayServe criteria (.ofMillis 15) slow ∧
      ¬ cluster.MayServe criteria (.ofMillis 15) unmeasured := by
  intro member primary near slow unmeasured cluster criteria
  have sound : cluster.WellFormed := by
    refine ⟨?_, by
      simp [cluster, primary, near, slow, unmeasured, member, Duration.ofMillis, Duration.longest]⟩
    -- Of the four, one bears the type of a primary.
    have only : ∀ server, cluster.Lists .rsPrimary server → server = primary := by
      rintro server ⟨listed, type⟩
      simp only [cluster, List.mem_cons, List.not_mem_nil, or_false] at listed
      rcases listed with rfl | rfl | rfl | rfl
      · rfl
      all_goals cases type
    intro first second one two
    rw [only first one, only second two]
  -- Who may be chosen is computed, and the rule says that this is who may serve.
  obtain ⟨ruled, -, -⟩ := eligible_iff_mayServe cluster criteria (.ofMillis 15) sound
  have found : cluster.eligible criteria (.ofMillis 15) = [near] := by decide +kernel
  refine ⟨sound, ?_, ?_, ?_⟩
  · rw [← ruled, found]
    exact List.mem_singleton_self near
  · rw [← ruled, found]
    decide
  · rw [← ruled, found]
    decide

end ClusterDescription

end DocWire
