import DocWire.Proofs.Cluster.Publications

/-! Descriptions that change between publications. A server is asked for its description whenever
somebody looks, so what it reads may be other than when the server was published; where the server
is does not change. -/

namespace DocWire

namespace Server

/-- The server when its description reads otherwise. -/
def redescribe (server : Server) (description : ServerDescription) : Server :=
  { server with description := { description with address := server.address } }

/-- A server is the one that was published, whatever its description reads by now. -/
def Continues (published server : Server) : Prop :=
  published.redescribe server.description = server

theorem continues_refl (server : Server) : server.Continues server := rfl

variable {published server : Server}

theorem Continues.redescribe (same : published.Continues server)
    (description : ServerDescription) : published.Continues (server.redescribe description) := by
  rw [Continues] at same
  rw [← same]
  rfl

theorem Continues.address_eq (same : published.Continues server) :
    server.address = published.address := by
  rw [← same]
  rfl

end Server

namespace Topology

/-- The topology when the description of the server at its address reads otherwise. -/
def redescribe (topology : Topology) (description : ServerDescription) : Topology :=
  { topology with
    servers := topology.servers.map fun server =>
      if server.address.same description.address then server.redescribe description else server }

/-- Servers that are those that were published are where those were. -/
theorem addresses_eq {earlier later : List Server}
    (same : List.Forall₂ Server.Continues earlier later) :
    later.map (·.address) = earlier.map (·.address) := by
  induction same with
  | nil => rfl
  | cons first rest ih => rw [List.map_cons, List.map_cons, ih, first.address_eq]

/-- Every server is one that was published. -/
theorem exists_continues {earlier later : List Server}
    (same : List.Forall₂ Server.Continues earlier later) {server : Server}
    (there : server ∈ later) : ∃ published ∈ earlier, published.Continues server := by
  induction same with
  | nil => cases there
  | @cons published _ _ _ first rest ih =>
    rcases List.mem_cons.mp there with rfl | behind
    · exact ⟨published, List.mem_cons_self .., first⟩
    · obtain ⟨published, member, continues⟩ := ih behind
      exact ⟨published, List.mem_cons_of_mem _ member, continues⟩

/-- A server takes the same place among servers whose descriptions read otherwise. -/
theorem continues_upsertServer {earlier later : List Server}
    (same : List.Forall₂ Server.Continues earlier later) (server : Server) :
    List.Forall₂ Server.Continues (upsertServer server earlier) (upsertServer server later) := by
  induction same with
  | nil => exact .cons server.continues_refl .nil
  | cons first rest ih =>
    simp only [upsertServer, first.address_eq]
    split
    · exact .cons server.continues_refl rest
    · exact .cons first ih

variable {published topology : Topology}

/-- A change is made to the servers by their addresses, whatever their descriptions read. -/
theorem continues_publish
    (same : List.Forall₂ Server.Continues published.servers topology.servers)
    (change : Publication) :
    List.Forall₂ Server.Continues (published.publish change).servers
      (topology.publish change).servers := by
  cases change with
  | upsert server => exact continues_upsertServer same server
  | remove address =>
    exact List.rel_filter (fun _ _ first => by simp only [first.address_eq]) same
  | setType type => exact same

theorem continues_redescribe
    (same : List.Forall₂ Server.Continues published.servers topology.servers)
    (description : ServerDescription) :
    List.Forall₂ Server.Continues published.servers
      (topology.redescribe description).servers := by
  rw [redescribe, List.forall₂_map_right_iff]
  refine same.imp fun published server first => ?_
  split
  · exact first.redescribe description
  · exact first

/-- Servers are apart when those are that were published. -/
theorem apart_of_continues
    (same : List.Forall₂ Server.Continues published.servers topology.servers)
    (apart : Server.Apart published.servers) : Server.Apart topology.servers := by
  -- To be apart is a matter of the addresses alone.
  have places (servers : List Server) : Server.Apart servers ↔
      (servers.map (·.address)).Pairwise fun a b => a.identity ≠ b.identity := by
    rw [List.pairwise_map, Server.Apart]
  rw [places, addresses_eq same]
  exact (places _).mp apart

end Topology

end DocWire
