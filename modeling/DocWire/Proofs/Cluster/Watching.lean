import DocWire.Proofs.Cluster.Descriptions

/-! Selections that wait while changes are published. A selection takes steps of its own: it looks
at the servers that are published and finds one or waits, and as it waits it sees that there was a
change, or else that its time is up. Between two of its steps anything may be published, and the
descriptions of servers may come to read otherwise. -/

namespace DocWire

/-- Where a selection stands: it is about to look at the servers, or waits for a change beyond those
that it has seen, or has ended. -/
inductive Watch where
  | looking
  | waiting (seen : Nat)
  | ended (result : Except Cause Server)

/-- A selection, with the moment at which its time is up. -/
structure Watcher where
  criteria : Criteria
  deadline : Nat
  watch : Watch := .looking

/-- A topology with the number of changes so far, the time, and the selections among its servers in
the order of their calls. -/
structure Watched where
  topology : Topology
  version : Nat := 0
  now : Nat := 0
  watchers : List Watcher := []

namespace Watcher

/-- What a look at the servers comes to. -/
def look (watcher : Watcher) (watched : Watched) (choice : Nat) : Watch :=
  let servers := watched.topology.selectable watcher.criteria
  match servers[choice % servers.length]? with
  | some server => .ended (.ok server)
  | none => .waiting watched.version

/-- The next step of a selection. -/
def step (watcher : Watcher) (watched : Watched) (choice : Nat) : Watch :=
  match watcher.watch with
  | .looking => watcher.look watched choice
  | .waiting seen =>
    -- A change is seen even when the time is up.
    if seen ≠ watched.version then .looking
    else if watcher.deadline ≤ watched.now then
      .ended (.error (.selection (watched.topology.fault watcher.criteria)))
    else .waiting seen
  | .ended result => .ended result

end Watcher

namespace Watched

/-- What can happen next: a change is published, the description of a server comes to read
otherwise, time passes up to a moment, a selection is called for, or the one at a place takes its
next step, with any number for its choice. -/
inductive Move where
  | publish (change : Publication)
  | describe (description : ServerDescription)
  | pass (time : Nat)
  | call (criteria : Criteria)
  | step (place choice : Nat)

namespace Move

/-- The change that is published. -/
def publication? : Move → Option Publication
  | publish change => some change
  | describe _ | pass _ | call _ | step _ _ => none

/-- Whether a description comes to read otherwise, without being published. -/
def isDescription : Move → Bool
  | describe _ => true
  | publish _ | pass _ | call _ | step _ _ => false

/-- Whether the selection at a place takes its step. -/
def isStepOf (place : Nat) : Move → Bool
  | step moved _ => moved == place
  | publish _ | describe _ | pass _ | call _ => false

end Move

/-- A selection that is called for; it may take as long as the topology allows. -/
def called (watched : Watched) (criteria : Criteria) : Watcher where
  criteria
  deadline := watched.now + watched.topology.options.timeout.millis

/-- What becomes of a topology and its selections. -/
def step (watched : Watched) : Move → Watched
  | .publish change =>
    { watched with
      topology := watched.topology.publish change
      version := watched.version + 1 }
  -- Nobody who waits is told of it.
  | .describe description =>
    { watched with topology := watched.topology.redescribe description }
  | .pass time => { watched with now := max watched.now time }
  | .call criteria => { watched with watchers := watched.watchers ++ [watched.called criteria] }
  | .step place choice =>
    { watched with
      watchers := watched.watchers.modify place fun watcher =>
        { watcher with watch := watcher.step watched choice } }

/-- What becomes of an empty topology by all that happens. -/
def run (type : TopologyType) (options : TopologyOptions) (past : List Move) : Watched :=
  past.foldl step { topology := { type, options } }

end Watched

section Sublists

theorem taggedServers_sublist (servers : List ServerDescription) (sets : List TagSet) :
    (taggedServers servers sets).Sublist servers := by
  unfold taggedServers
  split
  · exact .refl _
  · split
    · exact List.filter_sublist
    · exact List.nil_sublist _

theorem withinWindow_sublist (servers : List ServerDescription) (threshold : Duration) :
    (withinWindow servers threshold).Sublist servers := by
  unfold withinWindow
  split
  · exact .refl _
  · exact List.filter_sublist

namespace ClusterDescription

variable (cluster : ClusterDescription)

theorem tagged_sublist (types : List ServerType) (sets : Option (List TagSet)) :
    (cluster.tagged types sets).Sublist cluster.servers :=
  (taggedServers_sublist _ _).trans List.filter_sublist

theorem suitableMembers_sublist (preference : ReadPreference) :
    (cluster.suitableMembers preference).Sublist cluster.servers := by
  have primaries : (cluster.ofTypes [.rsPrimary]).Sublist cluster.servers := List.filter_sublist
  have tagged := cluster.tagged_sublist
  cases preference with
  | primary => exact primaries
  | other mode options =>
    cases mode with
    | secondary => exact tagged _ _
    | nearest => exact tagged _ _
    | primaryPreferred =>
      simp only [suitableMembers]
      -- With a primary, it alone is taken, whatever else there is.
      cases found : cluster.ofTypes [.rsPrimary] with
      | nil => exact tagged _ _
      | cons primary rest =>
        rw [found] at primaries
        exact ((List.nil_sublist rest).cons_cons primary).trans primaries
    | secondaryPreferred =>
      simp only [suitableMembers]
      split
      · exact primaries
      · exact tagged _ _

/-- Whom an operation may go to is one of the cluster. -/
theorem eligible_sublist (criteria : Criteria) (threshold : Duration) :
    (cluster.eligible criteria threshold).Sublist cluster.servers := by
  refine (withinWindow_sublist _ _).trans ?_
  -- The window only drops servers, and so does each kind of cluster.
  cases criteria with
  | predicate accepts => exact List.filter_sublist
  | preference preference =>
    rw [candidates, suitable]
    split
    · exact List.nil_sublist _
    · exact List.filter_sublist
    · exact List.filter_sublist
    · exact List.filter_sublist
    · exact cluster.suitableMembers_sublist preference
    · exact cluster.suitableMembers_sublist preference

end ClusterDescription

end Sublists

namespace Topology

variable {topology : Topology} {server : Server}

/-- Where servers are apart, each is found at its address. -/
theorem server?_address (apart : Server.Apart topology.servers)
    (there : server ∈ topology.servers) : topology.server? server.address = some server := by
  obtain ⟨front, back, split⟩ := List.append_of_mem there
  rw [Server.Apart, split, List.pairwise_append] at apart
  refine List.find?_eq_some_iff_append.mpr ⟨Address.same_iff.mpr rfl, front, back, split, ?_⟩
  -- All before it are at other addresses.
  intro other before
  have elsewhere := apart.2.2 other before server (List.mem_cons_self ..)
  rw [Bool.not_eq_true', Bool.eq_false_iff]
  exact fun same => elsewhere (Address.same_iff.mp same)

/-- Where there is one server alone, it depends on its description whether it meets the criteria. -/
theorem eligible_alone (server : Server) (alone : topology.servers = [server])
    (criteria : Criteria) :
    topology.eligible criteria
      = (ClusterDescription.mk topology.type [server.description]).eligible criteria
        topology.options.threshold := by
  rw [eligible, description, alone, List.map_singleton, List.mergeSort_singleton]

/-- To every server that meets the criteria there is one that may be returned. -/
theorem descriptions_selectable (apart : Server.Apart topology.servers) (criteria : Criteria) :
    (topology.selectable criteria).map (·.description) = topology.eligible criteria := by
  have stored : ∀ known ∈ topology.eligible criteria, ∃ server,
      topology.server? known.address = some server ∧ server.description = known := by
    intro known found
    have listed := (topology.description.eligible_sublist criteria _).subset found
    obtain ⟨server, there, rfl⟩ := mem_description.mp listed
    exact ⟨server, server?_address apart there, rfl⟩
  -- So the lookup drops none of them, one after another.
  rw [selectable]
  generalize topology.eligible criteria = eligible at stored
  induction eligible with
  | nil => rfl
  | cons first rest ih =>
    obtain ⟨server, found, own⟩ := stored first (List.mem_cons_self ..)
    simp only [List.filterMap_cons, found, List.map_cons, own]
    rw [ih fun known behind => stored known (List.mem_cons_of_mem _ behind)]

/-- What a selection may return is stored at its address, and meets the criteria. -/
theorem stored_of_selectable (apart : Server.Apart topology.servers) {criteria : Criteria}
    (selectable : server ∈ topology.selectable criteria) :
    topology.server? server.address = some server ∧
      server.description ∈ topology.eligible criteria := by
  constructor
  · obtain ⟨known, -, found⟩ := List.mem_filterMap.mp selectable
    exact server?_address apart (List.mem_of_find?_eq_some found)
  · rw [← descriptions_selectable apart criteria]
    exact List.mem_map_of_mem selectable

end Topology

/-- A look finds a server that may be returned, if there is any. -/
theorem Watcher.look_cases (watcher : Watcher) (watched : Watched) (choice : Nat) :
    let servers := watched.topology.selectable watcher.criteria
    (∃ server, servers[choice % servers.length]? = some server ∧
      watcher.look watched choice = .ended (.ok server)) ∨
    servers = [] ∧ watcher.look watched choice = .waiting watched.version := by
  intro servers
  rw [look]
  by_cases none : servers = []
  · have missing : servers[choice % servers.length]? = Option.none := by
      rw [none, List.getElem?_nil]
    exact .inr ⟨none, by rw [missing]⟩
  · -- A choice taken around the number of servers is one of their places.
    have within := Nat.mod_lt choice (List.length_pos_iff.mpr none)
    have there : servers[choice % servers.length]? = some _ := List.getElem?_eq_getElem within
    exact .inl ⟨_, there, by rw [there]⟩

namespace Watched

section Run

variable (type : TopologyType) (options : TopologyOptions) (past : List Move)

theorem run_append (move : Move) :
    run type options (past ++ [move]) = (run type options past).step move := by
  rw [run, List.foldl_append, List.foldl_cons, List.foldl_nil, run]

/-- But for what their descriptions read by now, the servers are those that were published. -/
theorem continues_run :
    List.Forall₂ Server.Continues
      (Topology.after type options (past.filterMap (·.publication?))).servers
      (run type options past).topology.servers := by
  induction past using List.reverseRecOn with
  | nil => exact .nil
  | append_singleton past move ih =>
    rw [run_append, List.filterMap_append]
    cases move with
    | publish change =>
      have same := Topology.continues_publish ih change
      rwa [← Topology.after_append] at same
    | describe description =>
      have same := Topology.continues_redescribe ih description
      rwa [← List.append_nil (past.filterMap _)] at same
    | pass _ | call _ | step _ _ => rwa [← List.append_nil (past.filterMap _)] at ih

theorem apart_run : Server.Apart (run type options past).topology.servers :=
  Topology.apart_of_continues (continues_run type options past)
    (Topology.apart_after type options _)

/-- A server that is there now is the one that was published last at its address. -/
theorem exists_lastServer {server : Server}
    (there : server ∈ (run type options past).topology.servers) :
    ∃ published, lastServer (past.filterMap (·.publication?)) server.address = some published ∧
      published.Continues server := by
  obtain ⟨published, member, same⟩ :=
    Topology.exists_continues (continues_run type options past) there
  refine ⟨published, ?_, same⟩
  rw [same.address_eq]
  exact (Topology.mem_after type options _).mp member

variable {type options past}

/-- The number of changes only ever grows. -/
theorem version_le_step (watched : Watched) (move : Move) :
    watched.version ≤ (watched.step move).version := by
  cases move <;> simp [step]

theorem version_le_run (rest : List Move) :
    (run type options past).version ≤ (run type options (past ++ rest)).version := by
  induction rest using List.reverseRecOn with
  | nil => rw [List.append_nil]
  | append_singleton rest move ih =>
    rw [← List.append_assoc, run_append]
    exact Nat.le_trans ih (version_le_step _ move)

/-- As long as the number of changes is the same, nothing is published. -/
theorem publication?_eq_none {rest : List Move}
    (same : (run type options past).version = (run type options (past ++ rest)).version) :
    ∀ move ∈ rest, move.publication? = none := by
  induction rest using List.reverseRecOn with
  | nil => exact List.forall_mem_nil _
  | append_singleton rest move ih =>
    rw [← List.append_assoc, run_append] at same
    -- The number was the same all the time, so neither an earlier move nor the last has changed it.
    have before : (run type options past).version ≤ _ := version_le_run rest
    have after := version_le_step (run type options (past ++ rest)) move
    have still : (run type options past).version
        = (run type options (past ++ rest)).version := by omega
    intro other among
    rcases List.mem_append.mp among with earlier | last
    · exact ih still other earlier
    · obtain rfl := List.mem_singleton.mp last
      cases other with
      | publish change => exact absurd (still.symm.trans same) (Nat.ne_of_lt (Nat.lt_succ_self _))
      | describe _ | pass _ | call _ | step _ _ => rfl

/-- Where nothing is published, and no description comes to read otherwise, the topology is what it
was. -/
theorem topology_eq_of_quiet {rest : List Move}
    (quiet : ∀ move ∈ rest, move.publication? = none)
    (kept : ∀ move ∈ rest, move.isDescription = false) :
    (run type options past).topology = (run type options (past ++ rest)).topology := by
  induction rest using List.reverseRecOn with
  | nil => rw [List.append_nil]
  | append_singleton rest move ih =>
    obtain ⟨quiet, silent⟩ := List.forall_mem_append.mp quiet
    obtain ⟨kept, same⟩ := List.forall_mem_append.mp kept
    rw [← List.append_assoc, run_append, ih quiet kept]
    cases move with
    | publish change => cases silent _ (List.mem_singleton_self _)
    | describe description => cases same _ (List.mem_singleton_self _)
    | pass _ | call _ | step _ _ => rfl

end Run

section Prompt

variable {watched : Watched} {place : Nat} {watcher : Watcher} {move : Move}

theorem getElem?_step_own (there : watched.watchers[place]? = some watcher) (choice : Nat) :
    (watched.step (.step place choice)).watchers[place]?
      = some { watcher with watch := watcher.step watched choice } := by
  simp [step, there]

theorem getElem?_step_other (there : watched.watchers[place]? = some watcher)
    (idle : move.isStepOf place = false) :
    (watched.step move).watchers[place]? = some watcher := by
  -- A call adds a watcher behind the others, and a step moves its own only.
  cases move with
  | publish change => exact there
  | describe description => exact there
  | pass time => exact there
  | call criteria =>
    rw [step, List.getElem?_append_left (List.getElem?_eq_some_iff.mp there).1]
    exact there
  | step moved choice =>
    have other : moved ≠ place := ne_of_beq_false idle
    simp [step, other, there]

theorem getElem?_foldl_other {moves : List Move}
    (there : watched.watchers[place]? = some watcher)
    (idle : ∀ move ∈ moves, move.isStepOf place = false) :
    (moves.foldl step watched).watchers[place]? = some watcher := by
  induction moves generalizing watched with
  | nil => exact there
  | cons move moves ih =>
    obtain ⟨first, rest⟩ := List.forall_mem_cons.mp idle
    exact ih (getElem?_step_other there first) rest

/-- What has ended does not change any more. -/
theorem getElem?_foldl_ended {result : Except Cause Server} (later : List Move)
    (there : watched.watchers[place]? = some watcher) (ended : watcher.watch = .ended result) :
    (later.foldl step watched).watchers[place]? = some watcher := by
  induction later generalizing watched with
  | nil => exact there
  | cons move later ih =>
    refine ih ?_
    cases move with
    | step moved choice =>
      by_cases own : moved = place
      · -- Its own step leaves it as it is.
        subst own
        rw [getElem?_step_own there, Watcher.step, ended]
        exact congrArg (some <| Watcher.mk watcher.criteria watcher.deadline ·) ended.symm
      · exact getElem?_step_other there (beq_false_of_ne own)
    | publish _ | describe _ | pass _ | call _ => exact getElem?_step_other there rfl

/-- Who waits, with nothing unseen, when the time is up, fails. -/
theorem getElem?_pass_step (there : watched.watchers[place]? = some watcher)
    (idle : watcher.watch = .waiting watched.version) (choice : Nat) :
    ([.pass watcher.deadline, .step place choice].foldl step watched).watchers[place]?
      = some { watcher with
          watch := .ended (.error (.selection (watched.topology.fault watcher.criteria))) } := by
  have late : watcher.deadline ≤ (watched.step (.pass watcher.deadline)).now := Nat.le_max_right ..
  have same : watched.version = (watched.step (.pass watcher.deadline)).version := rfl
  refine (getElem?_step_own (getElem?_step_other there rfl) choice).trans ?_
  simp only [Watcher.step, idle, ne_eq, not_true_eq_false, if_false, ← same, if_pos late]
  rfl

/-- Who waits is about to look again after a change. -/
theorem getElem?_publish_step {seen : Nat} (there : watched.watchers[place]? = some watcher)
    (waits : watcher.watch = .waiting seen) (old : seen ≤ watched.version) (time : Nat)
    (change : Publication) (choice : Nat) :
    ([.pass time, .publish change, .step place choice].foldl step watched).watchers[place]?
      = some { watcher with watch := .looking } := by
  have kept : ((watched.step (.pass time)).step (.publish change)).watchers[place]?
      = some watcher := there
  have unseen : seen ≠ ((watched.step (.pass time)).step (.publish change)).version :=
    Nat.ne_of_lt (Nat.lt_succ_of_le old)
  refine (getElem?_step_own kept choice).trans ?_
  simp only [Watcher.step, waits, if_pos unseen]

end Prompt

end Watched

end DocWire
