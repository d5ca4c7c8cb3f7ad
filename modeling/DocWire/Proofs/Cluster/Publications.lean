import Mathlib.Data.List.Induction
import Mathlib.Data.List.Sort
import DocWire.Cluster.Topology
import DocWire.Proofs.Text.Names

/-! What a sequence of changes leaves of a cluster: at each address the server that was published
there last, unless it was removed since. What is known of the cluster depends on nothing else. -/

namespace DocWire

namespace Publication

/-- Whether the change is about the server at an address. -/
def concerns (change : Publication) (address : Address) : Bool :=
  match change with
  | .upsert server => server.address.same address
  | .remove removed => removed.same address
  | .setType _ => false

/-- The server that the change leaves at the address that it is about. -/
def server? : Publication → Option Server
  | .upsert server => some server
  | .remove _ | .setType _ => none

/-- The type that the change gives the cluster. -/
def type? : Publication → Option TopologyType
  | .setType type => some type
  | .upsert _ | .remove _ => none

theorem concerns_congr (change : Publication) {a b : Address} (same : a.identity = b.identity) :
    change.concerns a = change.concerns b := by
  cases change <;> simp only [concerns, Address.same, same]

end Publication

/-- The server that changes leave at an address: what the last change about the address left. -/
def lastServer (changes : List Publication) (address : Address) : Option Server :=
  (changes.reverse.find? (·.concerns address)).bind (·.server?)

/-- The type that changes leave a cluster of. -/
def lastType (type : TopologyType) (changes : List Publication) : TopologyType :=
  (changes.reverse.findSome? (·.type?)).getD type

section Last

variable (changes : List Publication) (change : Publication)

theorem lastServer_append (address : Address) :
    lastServer (changes ++ [change]) address
      = if change.concerns address then change.server? else lastServer changes address := by
  rw [lastServer, List.reverse_append, List.reverse_singleton, List.singleton_append,
    List.find?_cons]
  cases change.concerns address <;> rfl

theorem lastType_append (type : TopologyType) :
    lastType type (changes ++ [change]) = change.type?.getD (lastType type changes) := by
  rw [lastType, List.reverse_append, List.reverse_singleton, List.singleton_append,
    List.findSome?_cons]
  cases change.type? <;> rfl

theorem lastServer_congr {a b : Address} (same : a.identity = b.identity) :
    lastServer changes a = lastServer changes b := by
  simp only [lastServer, fun change : Publication => change.concerns_congr same]

/-- The server that changes leave at an address leads there. -/
theorem identity_of_lastServer {server : Server} {address : Address}
    (last : lastServer changes address = some server) :
    server.address.identity = address.identity := by
  -- The last change at the address was found by the address, and it left this server.
  obtain ⟨change, found, left⟩ := Option.bind_eq_some_iff.mp last
  have concerned := List.find?_some found
  cases change with
  | upsert upserted =>
    cases left
    exact Address.same_iff.mp concerned
  | remove removed => cases left
  | setType type => cases left

end Last

/-- No two servers are at the same address. -/
def Server.Apart (servers : List Server) : Prop :=
  servers.Pairwise fun a b => a.address.identity ≠ b.address.identity

section Upsert

variable {server other : Server} {servers : List Server}

/-- Of the servers that are apart, only the one at the same address makes room for another. -/
theorem mem_upsertServer (apart : Server.Apart servers) :
    other ∈ upsertServer server servers ↔
      other = server ∨ other ∈ servers ∧ other.address.identity ≠ server.address.identity := by
  induction servers with
  | nil => simp [upsertServer]
  | cons first rest ih =>
    obtain ⟨ahead, apart⟩ := List.pairwise_cons.mp apart
    rw [upsertServer]
    split
    · rename_i same
      rw [Address.same_iff] at same
      -- All behind the one that makes room are at other addresses.
      have elsewhere : other ∈ rest → other.address.identity ≠ server.address.identity :=
        fun behind => same ▸ (ahead other behind).symm
      simp only [List.mem_cons]
      constructor
      · rintro (own | behind)
        · exact .inl own
        · exact .inr ⟨.inr behind, elsewhere behind⟩
      · rintro (own | ⟨rfl | behind, different⟩)
        · exact .inl own
        · exact absurd same different
        · exact .inr behind
    · rename_i different
      rw [Address.same_iff] at different
      rw [List.mem_cons, ih apart, List.mem_cons]
      constructor
      · rintro (rfl | own | ⟨behind, elsewhere⟩)
        · exact .inr ⟨.inl rfl, different⟩
        · exact .inl own
        · exact .inr ⟨.inr behind, elsewhere⟩
      · rintro (own | ⟨rfl | behind, elsewhere⟩)
        · exact .inr (.inl own)
        · exact .inl rfl
        · exact .inr (.inr ⟨behind, elsewhere⟩)

theorem apart_upsertServer (apart : Server.Apart servers) :
    Server.Apart (upsertServer server servers) := by
  induction servers with
  | nil => exact List.pairwise_singleton _ _
  | cons first rest ih =>
    obtain ⟨ahead, behind⟩ := List.pairwise_cons.mp apart
    rw [upsertServer]
    split
    · -- The new server stands at the address of the one whose place it takes.
      rename_i same
      rw [Address.same_iff] at same
      exact List.pairwise_cons.mpr ⟨same ▸ ahead, behind⟩
    · rename_i different
      rw [Address.same_iff] at different
      refine List.pairwise_cons.mpr ⟨fun other found => ?_, ih behind⟩
      rcases (mem_upsertServer behind).mp found with rfl | ⟨within, -⟩
      · exact different
      · exact ahead other within

end Upsert

namespace Topology

variable {topology : Topology} {server : Server} {address : Address}

/-- After a change the servers are apart as before. -/
theorem apart_publish (apart : Server.Apart topology.servers) (change : Publication) :
    Server.Apart (topology.publish change).servers := by
  cases change with
  | upsert server => exact apart_upsertServer apart
  | remove address => exact List.Pairwise.filter _ apart
  | setType type => exact apart

/-- A change decides about the server at the address that it concerns, and leaves all others. -/
theorem mem_publish (apart : Server.Apart topology.servers) (change : Publication) :
    server ∈ (topology.publish change).servers ↔
      if change.concerns server.address then change.server? = some server
      else server ∈ topology.servers := by
  cases change with
  | upsert upserted =>
    rw [publish, mem_upsertServer apart, Publication.concerns]
    -- At the address itself only the new server is left, and elsewhere it makes no difference.
    by_cases same : upserted.address.same server.address
    · rw [if_pos same]
      have stale : ¬ server.address.identity ≠ upserted.address.identity :=
        not_not_intro (Address.same_iff.mp same).symm
      simp [Publication.server?, stale, eq_comm]
    · rw [if_neg same]
      have other : server.address.identity ≠ upserted.address.identity :=
        fun equal => same (Address.same_iff.mpr equal.symm)
      have different : server ≠ upserted := fun equal => other (equal ▸ rfl)
      simp [other, different]
  | remove removed =>
    simp only [publish, Publication.concerns, List.mem_filter, Publication.server?]
    have swap : server.address.same removed = removed.same server.address := Bool.beq_comm
    by_cases same : removed.same server.address <;> simp [swap, same]
  | setType type => simp [publish, Publication.concerns]

theorem type_publish (change : Publication) :
    (topology.publish change).type = change.type?.getD topology.type := by
  cases change <;> rfl

theorem mem_description {known : ServerDescription} :
    known ∈ topology.description.servers ↔
      ∃ server ∈ topology.servers, server.description = known := by
  rw [description, (List.mergeSort_perm _ _).mem_iff, List.mem_map]

/-- Servers that are apart are listed by what their addresses read, in increasing order. -/
theorem sorted_description (apart : Server.Apart topology.servers) :
    topology.description.servers.Pairwise fun a b => a.address.text < b.address.text := by
  have sorted : topology.description.servers.Pairwise
      fun a b => decide (a.address.text ≤ b.address.text) = true :=
    List.pairwise_mergeSort
      (fun a b c => by simpa using fun first second => String.le_trans first second)
      (fun a b => by simpa using String.le_total a.address.text b.address.text) _
  -- Addresses that differ are written differently, so the order is strict.
  have published : (topology.servers.map (·.description)).Pairwise
      fun a b => a.address.text ≠ b.address.text :=
    List.pairwise_map.mpr (apart.imp fun different same => different (Address.text_eq_iff.mp same))
  have distinct : topology.description.servers.Pairwise
      fun a b => a.address.text ≠ b.address.text :=
    ((List.mergeSort_perm _ _).pairwise_iff fun different => different.symm).mpr published
  exact (sorted.and distinct).imp fun ⟨first, different⟩ => String.not_le.mp fun second =>
    different (String.le_antisymm (of_decide_eq_true first) second)

/-- The topology after changes to an empty one. -/
def after (type : TopologyType) (options : TopologyOptions) (changes : List Publication) :
    Topology :=
  changes.foldl publish { type, options }

section After

variable (type : TopologyType) (options : TopologyOptions) (changes : List Publication)

theorem after_append (change : Publication) :
    after type options (changes ++ [change]) = (after type options changes).publish change := by
  rw [after, List.foldl_append, List.foldl_cons, List.foldl_nil, after]

theorem apart_after : Server.Apart (after type options changes).servers := by
  induction changes using List.reverseRecOn with
  | nil => exact List.Pairwise.nil
  | append_singleton changes change ih =>
    rw [after_append]
    exact apart_publish ih change

/-- The servers are those that the changes left at their addresses. -/
theorem mem_after {server : Server} :
    server ∈ (after type options changes).servers
      ↔ lastServer changes server.address = some server := by
  induction changes using List.reverseRecOn with
  | nil => simp [after, lastServer]
  | append_singleton changes change ih =>
    -- The last change has the last word at its address, and at that address only.
    rw [after_append, mem_publish (apart_after type options changes), lastServer_append]
    split
    · exact .rfl
    · exact ih

theorem type_after : (after type options changes).type = lastType type changes := by
  induction changes using List.reverseRecOn with
  | nil => rfl
  | append_singleton changes change ih => rw [after_append, type_publish, ih, lastType_append]

theorem mem_description_after {known : ServerDescription} :
    known ∈ (after type options changes).description.servers ↔
      ∃ server, lastServer changes known.address = some server ∧ server.description = known := by
  rw [mem_description]
  constructor
  · rintro ⟨server, there, rfl⟩
    exact ⟨server, (mem_after type options changes).mp there, rfl⟩
  · rintro ⟨server, last, rfl⟩
    exact ⟨server, (mem_after type options changes).mpr last, rfl⟩

/-- At an address, what is known is the server that was left there. -/
theorem filter_description_after (address : Address) :
    (after type options changes).description.servers.filter (·.address.same address)
      = (lastServer changes address).toList.map (·.description) := by
  have listed (known : ServerDescription) :
      known ∈ (after type options changes).description.servers.filter (·.address.same address) ↔
        ∃ server, lastServer changes address = some server ∧ server.description = known := by
    rw [List.mem_filter, mem_description_after, Address.same_iff]
    constructor
    · rintro ⟨⟨server, last, own⟩, same⟩
      exact ⟨server, lastServer_congr changes same ▸ last, own⟩
    · rintro ⟨server, last, rfl⟩
      have same := identity_of_lastServer changes last
      exact ⟨⟨server, lastServer_congr changes same ▸ last, rfl⟩, same⟩
  have sorted := (sorted_description (apart_after type options changes)).filter
    (·.address.same address)
  generalize (after type options changes).description.servers.filter _ = found at listed sorted
  match found with
  | [] =>
    cases last : lastServer changes address with
    | none => rfl
    | some server => cases (listed server.description).mpr ⟨server, last, rfl⟩
  | [known] =>
    obtain ⟨server, last, rfl⟩ := (listed known).mp (List.mem_singleton_self _)
    rw [last]
    rfl
  | first :: second :: _ =>
    -- Both would be the server that was left there.
    obtain ⟨one, last, rfl⟩ := (listed first).mp (by simp)
    obtain ⟨two, again, rfl⟩ := (listed second).mp (by simp)
    cases last.symm.trans again
    exact absurd ((List.pairwise_cons.mp sorted).1 _ (List.mem_cons_self ..)) (String.lt_irrefl _)

end After

/-- What is known of a cluster after any changes: at each address just the server that was published
there last and not removed since, whether or not a port is named, and all servers in the order of
what their addresses read. Changes that leave the same servers and the same type leave the same
description, in whatever order they were published. -/
theorem description_after (type : TopologyType) (options : TopologyOptions)
    (changes : List Publication) :
    (∀ address, (after type options changes).description.servers.filter (·.address.same address)
        = (lastServer changes address).toList.map (·.description)) ∧
      (after type options changes).description.servers.Pairwise
        (fun a b => a.address.text < b.address.text) ∧
      (after type options changes).description.type = lastType type changes ∧
      ∀ (first : TopologyType) (otherOptions : TopologyOptions) (others : List Publication),
        (∀ address, lastServer others address = lastServer changes address) →
        lastType first others = lastType type changes →
        (after first otherOptions others).description
          = (after type options changes).description := by
  refine ⟨filter_description_after type options changes,
    sorted_description (apart_after type options changes), type_after type options changes, ?_⟩
  intro first otherOptions others servers types
  have kind : (after first otherOptions others).type = (after type options changes).type := by
    rw [type_after, type_after, types]
  -- Both lists are sorted in the same strict order, and have the same members.
  have : Std.Irrefl fun a b : ServerDescription => a.address.text < b.address.text :=
    ⟨fun known => String.lt_irrefl _⟩
  have listed : (after first otherOptions others).description.servers
      = (after type options changes).description.servers :=
    List.Pairwise.eq_of_mem_iff (sorted_description (apart_after first otherOptions others))
      (sorted_description (apart_after type options changes)) fun known => by
        rw [mem_description_after, mem_description_after, servers]
  exact congrArg₂ ClusterDescription.mk kind listed

/-- A server at the default port takes the place of one whose address names no port; that another
server was published, or one removed, at the place before makes no difference. -/
theorem description_after_spelled :
    let serving (host : String) (port : Option UInt16) (type : ServerType) : Server :=
      { description := { address := ⟨host, port⟩, type }, connection := default }
    let first := serving "a" none .unknown
    let second := serving "b" (some 1) .mongos
    let last := serving "a" (some 27017) .mongos
    let changes : List Publication :=
      [.upsert second, .upsert first, .setType .sharded, .upsert last]
    let others : List Publication :=
      [.upsert last, .remove ⟨"a", none⟩, .upsert last, .upsert second]
    (after .unknown {} changes).description.servers.filter (·.address.same ⟨"a", none⟩)
        = [last.description] ∧
      (after .sharded {} others).description = (after .unknown {} changes).description := by
  intro serving first second last changes others
  obtain ⟨listed, -, -, independent⟩ := description_after .unknown {} changes
  refine ⟨listed ⟨"a", none⟩, independent .sharded {} others (fun address => ?_) rfl⟩
  -- Both spellings of the address concern the same servers, and the other host is elsewhere.
  have spelled : first.address.same address = last.address.same address := rfl
  have removed : Address.same ⟨"a", none⟩ address = last.address.same address := rfl
  have apart : second.address.same address = true → last.address.same address = false := by
    intro own
    rw [Address.same, ← Address.same_iff.mp own]
    rfl
  cases own : second.address.same address with
  | true =>
    simp [lastServer, changes, others, Publication.concerns, Publication.server?, spelled, own,
      apart own]
  | false =>
    cases here : last.address.same address <;>
      simp [lastServer, changes, others, Publication.concerns, Publication.server?, spelled,
        removed, own, here]

end Topology

end DocWire
