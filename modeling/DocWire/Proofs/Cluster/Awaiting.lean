import DocWire.Proofs.Cluster.Watching
import DocWire.Proofs.Work
import DocWire.World

/-! A selection that is made in one go, with the changes that are published meanwhile, comes to what
a selection comes to that takes its steps as soon as there is something to see. -/

namespace DocWire

/-- What is found when everybody's patience is over makes no difference. -/
theorem SelectionLimits.settle_late {limits : SelectionLimits} {now : Nat}
    (late : limits.patience ≤ now) (topology : Topology) (servers : List Server)
    (later : Selection) : limits.settle now topology servers later = later := by
  simp [settle, late]

namespace Topology

variable {topology : Topology} {criteria : Criteria} {limits : SelectionLimits}

/-- A selection settles on whom it finds now, or goes on as one that finds nobody. -/
theorem select_eq (now : Nat) (changes : List (Nat × Publication)) :
    topology.select criteria limits now changes
      = limits.settle now topology (topology.selectable criteria)
          (topology.select criteria limits limits.patience changes) := by
  have late := limits.settle_late (Nat.le_refl _) topology (topology.selectable criteria)
  cases changes <;> rw [select, select, late]

/-- A selection that finds nobody goes on. -/
theorem select_of_none (none : topology.selectable criteria = []) (now : Nat)
    (changes : List (Nat × Publication)) :
    topology.select criteria limits now changes
      = topology.select criteria limits limits.patience changes := by
  rw [select_eq, none]
  rfl

/-- Nobody looks any more when everybody's patience is over. -/
theorem select_late {now : Nat} (late : limits.patience ≤ now)
    (changes : List (Nat × Publication)) :
    topology.select criteria limits now changes
      = topology.select criteria limits limits.patience changes := by
  rw [select_eq, SelectionLimits.settle_late late]

/-- A selection that is made in time ends with whom it finds. -/
theorem select_of_some (some : topology.selectable criteria ≠ []) {now : Nat}
    (early : now < limits.patience) (changes : List (Nat × Publication)) :
    topology.select criteria limits now changes
      = .found now topology (topology.selectable criteria) := by
  rw [select_eq]
  simp [SelectionLimits.settle, some, Nat.not_le.mpr early]

end Topology

/-- What comes of a selection that is made in one go: servers that were found, the end of its time,
or nothing, if nobody waits so long. -/
def Selection.result (criteria : Criteria) : Selection → Except Halt (List Server)
  | .found _ _ servers => .ok servers
  | .timedOut last => .error (.ofCause (.selection (last.fault criteria)))
  | .outlasted _ => .error .dropped

/-- A selection that takes its steps one by one has come to the same as one that is made in one go:
to one of the servers that were found, or to the same failure; and it still waits when nobody waits
any longer for the other. -/
inductive Watch.ComesTo (limits : SelectionLimits) (choice : Nat) :
    Watch → Except Halt (List Server) → Prop where
  | found {servers : List Server} {server : Server}
    (taken : servers[choice % servers.length]? = some server) :
    ComesTo limits choice (.ended (.ok server)) (.ok servers)
  | failed {cause : Cause} :
    ComesTo limits choice (.ended (.error cause)) (.error (.ofCause cause))
  | dropped {seen : Nat} (impatient : limits.patience < limits.deadline) :
    ComesTo limits choice (.waiting seen) (.error .dropped)

namespace Watched

/-- The last step of a selection that has waited in vain until its time is up, if anybody waits so
long. -/
def expiring (place choice : Nat) (limits : SelectionLimits) : List Move :=
  if limits.deadline ≤ limits.patience then [.pass limits.deadline, .step place choice] else []

/-- The steps of a selection after its first look, each as soon as there is something to see: two
after every change that comes in time, as long as anybody waits, and one when its time is up. -/
def awaiting (place choice : Nat) (limits : SelectionLimits) :
    List (Nat × Publication) → List Move
  | [] => expiring place choice limits
  | (time, change) :: later =>
    if limits.allows time then
      .pass time :: .publish change ::
        ((if time < limits.patience then [.step place choice, .step place choice] else []) ++
          awaiting place choice limits later)
    else expiring place choice limits

variable {watched : Watched} {place choice : Nat} {criteria : Criteria} {limits : SelectionLimits}

/-- A selection whose time is up, or for which nobody waits any longer. -/
theorem comesTo_expiring {seen : Nat}
    (there : watched.watchers[place]? = some ⟨criteria, limits.deadline, .waiting seen⟩)
    (idle : limits.deadline ≤ limits.patience → seen = watched.version) :
    ∃ watch, ((expiring place choice limits).foldl step watched).watchers[place]?
        = some ⟨criteria, limits.deadline, watch⟩ ∧
      watch.ComesTo limits choice ((limits.unmet watched.topology).result criteria) := by
  rw [expiring, SelectionLimits.unmet]
  by_cases patient : limits.deadline ≤ limits.patience
  · rw [if_pos patient, if_pos patient]
    obtain rfl := idle patient
    exact ⟨_, getElem?_pass_step there rfl choice, .failed⟩
  · rw [if_neg patient, if_neg patient]
    exact ⟨_, there, .dropped (Nat.not_le.mp patient)⟩

/-- A selection that looks either finds a server, or waits and goes on from there. -/
theorem comesTo_look {changes : List (Nat × Publication)} {now : Nat}
    (early : now < limits.patience)
    (there : watched.watchers[place]? = some ⟨criteria, limits.deadline, .looking⟩)
    (onward : ∀ {watched : Watched},
      watched.watchers[place]? = some ⟨criteria, limits.deadline, .waiting watched.version⟩ →
      ∃ watch, ((awaiting place choice limits changes).foldl step watched).watchers[place]?
          = some ⟨criteria, limits.deadline, watch⟩ ∧
        watch.ComesTo limits choice
          ((watched.topology.select criteria limits limits.patience changes).result criteria)) :
    ∃ watch, ((.step place choice :: awaiting place choice limits changes).foldl step
          watched).watchers[place]? = some ⟨criteria, limits.deadline, watch⟩ ∧
      watch.ComesTo limits choice
        ((watched.topology.select criteria limits now changes).result criteria) := by
  have own := getElem?_step_own there choice
  simp only [Watcher.step] at own
  rw [List.foldl_cons]
  rcases Watcher.look_cases ⟨criteria, limits.deadline, .looking⟩ watched choice with
    ⟨server, taken, look⟩ | ⟨none, look⟩ <;> rw [look] at own
  · -- It finds a server at once, whatever is still to come.
    rw [Topology.select_of_some (List.ne_nil_of_mem (List.mem_of_getElem? taken)) early]
    exact ⟨.ended (.ok server), getElem?_foldl_ended _ own rfl, .found taken⟩
  · rw [Topology.select_of_none none]
    exact onward own

/-- A selection that waits, with nothing unseen or with nobody to see it in time, comes to what is
still to be selected. -/
theorem comesTo_awaiting (changes : List (Nat × Publication)) {seen : Nat}
    (there : watched.watchers[place]? = some ⟨criteria, limits.deadline, .waiting seen⟩)
    (old : seen ≤ watched.version)
    (idle : limits.deadline ≤ limits.patience → seen = watched.version) :
    ∃ watch, ((awaiting place choice limits changes).foldl step watched).watchers[place]?
        = some ⟨criteria, limits.deadline, watch⟩ ∧
      watch.ComesTo limits choice
        ((watched.topology.select criteria limits limits.patience changes).result criteria) := by
  induction changes generalizing watched seen with
  | nil =>
    rw [Topology.select, SelectionLimits.settle_late (Nat.le_refl _)]
    exact comesTo_expiring there idle
  | cons first changes ih =>
    obtain ⟨time, change⟩ := first
    rw [awaiting, Topology.select, SelectionLimits.settle_late (Nat.le_refl _)]
    by_cases inTime : limits.allows time = true
    · rw [if_pos inTime, if_pos inTime]
      by_cases early : time < limits.patience
      · -- It wakes and looks before anything else happens.
        rw [if_pos early]
        exact comesTo_look early (getElem?_publish_step there rfl old time change choice)
          fun own => ih own (Nat.le_refl _) fun _ => rfl
      · -- The change comes when nobody looks any more.
        rw [if_neg early, Topology.select_late (Nat.not_lt.mp early)]
        have kept : ((watched.step (.pass time)).step (.publish change)).watchers[place]?
            = some ⟨criteria, limits.deadline, .waiting seen⟩ := there
        refine ih kept (Nat.le_succ_of_le old) fun patient => ?_
        simp only [SelectionLimits.allows, Bool.and_eq_true, decide_eq_true_eq] at inTime
        omega
    · rw [if_neg inTime, if_neg inTime]
      exact comesTo_expiring there idle

/-- What the operation comes to is what the selection comes to that it makes. -/
theorem selectAmong_result (world : World) (topology : Nat) (criteria : Criteria)
    (changes : List (Nat × Publication)) :
    let current := world.topologies.get topology
    let deadline := world.network.now + current.options.timeout.millis
    (Act.selectAmong topology criteria changes world).1
      = (current.select criteria ⟨deadline, world.network.patience⟩ world.network.now
          changes).result criteria := by
  -- What is reported on the way has no part in the result.
  simp only [Act.selectAmong, Work.bind_apply, Work.get_apply, Act.emit, Work.modify_apply]
  generalize (world.topologies.get topology).select _ _ _ _ = selection
  split <;> cases selection <;> rfl

/-- A selection that is called for and takes its steps as soon as there is something to see comes to
the same as the operation that is called in its place. -/
theorem comesTo_selectAmong {world : World} {topology : Nat}
    (stored : world.topologies.get topology = watched.topology)
    (clock : world.network.now = watched.now) (early : watched.now < world.network.patience)
    (criteria : Criteria) (changes : List (Nat × Publication)) (choice : Nat) :
    let place := watched.watchers.length
    let limits := ⟨(watched.called criteria).deadline, world.network.patience⟩
    ∃ watch, ((.call criteria :: .step place choice :: awaiting place choice limits changes).foldl
        step watched).watchers[place]? = some { watched.called criteria with watch } ∧
      watch.ComesTo limits choice (Act.selectAmong topology criteria changes world).1 := by
  intro place limits
  have called : (watched.step (.call criteria)).watchers[place]?
      = some ⟨criteria, limits.deadline, .looking⟩ := List.getElem?_concat_length
  rw [selectAmong_result, stored, clock, List.foldl_cons]
  exact comesTo_look early called fun own =>
    comesTo_awaiting changes own (Nat.le_refl _) fun _ => rfl

end Watched

end DocWire
