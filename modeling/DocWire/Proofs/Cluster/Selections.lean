import DocWire.Proofs.Cluster.Awaiting

/-! Why selections stand where they do, whatever is published and whatever descriptions read by
then; and that a selection with a server to find finds one. -/

namespace DocWire

namespace Watched

/-- By a step of its own a selection has looked at the servers since the latest change was
published, and none of them met its criteria then. -/
def LookedInVain (type : TopologyType) (options : TopologyOptions) (past : List Move) (place : Nat)
    (criteria : Criteria) : Prop :=
  ∃ before choice, before ++ [.step place choice] <+: past ∧
    (run type options before).version = (run type options past).version ∧
    (run type options before).topology.eligible criteria = []

/-- What happens but a change leaves a look the latest one that there was something to see by. -/
theorem LookedInVain.extend {type : TopologyType} {options : TopologyOptions} {past : List Move}
    {place : Nat} {criteria : Criteria} (looked : LookedInVain type options past place criteria)
    {move : Move} (quiet : move.publication? = none) :
    LookedInVain type options (past ++ [move]) place criteria := by
  obtain ⟨before, choice, taken, same, none⟩ := looked
  refine ⟨before, choice, taken.trans (List.prefix_append _ _), ?_, none⟩
  rw [run_append, same]
  cases move with
  | publish change => cases quiet
  | describe _ | pass _ | call _ | step _ _ => rfl

/-- Why the selection at a place stands where it does, after all that has happened. It is about to
look; or it waits, and there was a change that it has not seen, or else it has looked in vain since;
or by a step of its own it found a server that met its criteria then, and was the one that had been
published last at its address; or it failed, when its time was up and it had looked in vain since
the latest change. -/
inductive Sound (type : TopologyType) (options : TopologyOptions) (past : List Move) (place : Nat)
    (watcher : Watcher) : Prop where
  | looking (watch : watcher.watch = .looking)
  | behind {seen : Nat} (watch : watcher.watch = .waiting seen)
    (unseen : seen < (run type options past).version)
  | idle (watch : watcher.watch = .waiting (run type options past).version)
    (looked : LookedInVain type options past place watcher.criteria)
  | found {before : List Move} {choice : Nat} {server published : Server}
    (watch : watcher.watch = .ended (.ok server))
    (taken : before ++ [.step place choice] <+: past)
    (stored : (run type options before).topology.server? server.address = some server)
    (last : lastServer (before.filterMap (·.publication?)) server.address = some published)
    (same : published.Continues server)
    (meets : server.description ∈ (run type options before).topology.eligible watcher.criteria)
  | failed {before : List Move} {choice : Nat}
    (watch : watcher.watch = .ended (.error
      (.selection ((run type options before).topology.fault watcher.criteria))))
    (taken : before ++ [.step place choice] <+: past)
    (late : watcher.deadline ≤ (run type options before).now)
    (looked : LookedInVain type options before place watcher.criteria)

namespace Sound

variable {type : TopologyType} {options : TopologyOptions} {past : List Move}
  {place : Nat} {watcher : Watcher}

/-- While others take their steps, a change is all that a selection may have missed. -/
theorem extend (sound : Sound type options past place watcher) (move : Move) :
    Sound type options (past ++ [move]) place watcher := by
  cases sound with
  | looking watch => exact .looking watch
  | behind watch unseen =>
    refine .behind watch (Nat.lt_of_lt_of_le unseen ?_)
    rw [run_append]
    cases move <;> simp [Watched.step]
  | idle watch looked =>
    -- A change is the only thing that wakes it, and it is yet unseen.
    cases move with
    | publish change =>
      refine .behind watch ?_
      rw [run_append]
      exact Nat.lt_succ_self _
    | describe _ | pass _ | call _ | step _ _ =>
      refine .idle ?_ (looked.extend rfl)
      rw [run_append]
      exact watch
  | found watch taken stored last same meets =>
    exact .found watch (taken.trans (List.prefix_append _ _)) stored last same meets
  | failed watch taken late looked =>
    exact .failed watch (taken.trans (List.prefix_append _ _)) late looked

/-- So it stands after a step of its own. -/
theorem move (sound : Sound type options past place watcher) (choice : Nat) :
    Sound type options (past ++ [.step place choice]) place
      { watcher with watch := watcher.step (run type options past) choice } := by
  have apart := apart_run type options past
  have there := run_append type options past (.step place choice)
  cases sound with
  | looking watch =>
    have step : watcher.step (run type options past) choice
        = watcher.look (run type options past) choice := by
      rw [Watcher.step, watch]
    rcases watcher.look_cases (run type options past) choice with
      ⟨server, taken, look⟩ | ⟨none, look⟩
    · obtain ⟨stored, meets⟩ :=
        Topology.stored_of_selectable apart (List.mem_of_getElem? taken)
      obtain ⟨published, last, same⟩ :=
        exists_lastServer type options past (List.mem_of_find?_eq_some stored)
      exact .found (step.trans look) (List.prefix_refl _) stored last same meets
    · -- It waits from the very version in which it found nothing.
      refine .idle ?_ ⟨past, choice, List.prefix_refl _, ?_, ?_⟩
      · rw [there]
        exact step.trans look
      · rw [there]
        rfl
      · rw [← Topology.descriptions_selectable apart, none, List.map_nil]
  | behind watch unseen =>
    refine .looking ?_
    simp only [Watcher.step, watch, if_pos (Nat.ne_of_lt unseen)]
  | idle watch looked =>
    by_cases late : watcher.deadline ≤ (run type options past).now
    · refine .failed ?_ (List.prefix_refl _) late looked
      simp only [Watcher.step, watch, ne_eq, not_true_eq_false, if_false, if_pos late]
    · refine .idle ?_ (looked.extend rfl)
      rw [there]
      simp only [Watcher.step, watch, ne_eq, not_true_eq_false, if_false, if_neg late]
      rfl
  | found watch taken stored last same meets =>
    refine .found ?_ (taken.trans (List.prefix_append _ _)) stored last same meets
    simp only [Watcher.step, watch]
  | failed watch taken late looked =>
    refine .failed ?_ (taken.trans (List.prefix_append _ _)) late looked
    simp only [Watcher.step, watch]

end Sound

/-- Every selection stands where it does for such a reason. -/
theorem sound_run (type : TopologyType) (options : TopologyOptions) {past : List Move}
    {place : Nat} {watcher : Watcher}
    (there : (run type options past).watchers[place]? = some watcher) :
    Sound type options past place watcher := by
  induction past using List.reverseRecOn generalizing watcher with
  | nil => cases there
  | append_singleton past move ih =>
    rw [run_append] at there
    cases before : (run type options past).watchers[place]? with
    | some earlier =>
      by_cases moves : move.isStepOf place = true
      · cases move with
        | step moved choice =>
          obtain rfl : moved = place := beq_iff_eq.mp moves
          rw [getElem?_step_own before] at there
          cases there
          exact (ih before).move choice
        | publish _ | describe _ | pass _ | call _ => cases moves
      · rw [getElem?_step_other before (Bool.eq_false_iff.mpr moves)] at there
        cases there
        exact (ih before).extend move
    | none =>
      -- The selection was just called for.
      cases move with
      | call criteria =>
        rw [step, List.getElem?_append_right (List.getElem?_eq_none_iff.mp before)] at there
        obtain rfl := List.mem_singleton.mp (List.mem_of_getElem? there)
        exact .looking rfl
      | publish _ | describe _ | pass _ => cases before.symm.trans there
      | step moved choice =>
        simp [step, List.getElem?_modify, before] at there

/-- The selection finds a server by so many steps of its own, if there is one that it may return
when it looks: it is about to look, or is to see a change first. -/
inductive Due (version : Nat) : Watch → Nat → Prop where
  | found {server : Server} {steps : Nat} : Due version (.ended (.ok server)) steps
  | looking {steps : Nat} : Due version .looking (steps + 1)
  | waiting {seen steps : Nat} (unseen : seen < version) : Due version (.waiting seen) (steps + 2)

section Progress

variable {watched : Watched} {place : Nat} {watcher : Watcher}

/-- What is due stays so while more is published. -/
theorem Due.later {version later steps : Nat} {watch : Watch} (due : Due version watch steps)
    (grown : version ≤ later) : Due later watch steps := by
  cases due with
  | found => exact .found
  | looking => exact .looking
  | waiting unseen => exact .waiting (Nat.lt_of_lt_of_le unseen grown)

/-- A selection that looks finds a server while there is one that it may return. -/
theorem exists_look (any : watched.topology.selectable watcher.criteria ≠ []) (choice : Nat) :
    ∃ server, watcher.look watched choice = .ended (.ok server) := by
  rcases watcher.look_cases watched choice with ⟨server, -, look⟩ | ⟨none, -⟩
  · exact ⟨server, look⟩
  · exact absurd none any

/-- A step of its own takes the selection nearer to its end. -/
theorem Due.step {steps : Nat} (any : watched.topology.selectable watcher.criteria ≠ [])
    (due : Due watched.version watcher.watch (steps + 1)) (choice : Nat) :
    Due watched.version (watcher.step watched choice) steps := by
  generalize stand : watcher.watch = watch at due
  rw [Watcher.step, stand]
  cases due with
  | found => exact .found
  | looking =>
    obtain ⟨server, look⟩ := exists_look any choice
    dsimp only
    rw [look]
    exact .found
  | waiting unseen =>
    -- It sees the change, and will look next.
    dsimp only
    rw [if_pos (Nat.ne_of_lt unseen)]
    exact .looking

/-- A selection that is due finds a server, whatever happens meanwhile, as long as there always is
one that it may return. -/
theorem found_of_due {later : List Move}
    (any : ∀ front, front <+: later →
      (front.foldl Watched.step watched).topology.selectable watcher.criteria ≠ [])
    (there : watched.watchers[place]? = some watcher)
    (due : Due watched.version watcher.watch (later.countP (·.isStepOf place))) :
    ∃ server, (later.foldl Watched.step watched).watchers[place]?
      = some { watcher with watch := .ended (.ok server) } := by
  -- What others do leaves what is due as it is.
  induction later generalizing watched watcher with
  | nil =>
    obtain ⟨criteria, deadline, watch⟩ := watcher
    cases due with
    | found => exact ⟨_, there⟩
  | cons move later ih =>
    have behind : ∀ front, front <+: later →
        (front.foldl Watched.step (watched.step move)).topology.selectable watcher.criteria ≠ [] :=
      fun front within => any (move :: front) ((List.prefix_cons_inj move).mpr within)
    rw [List.countP_cons] at due
    cases moves : move.isStepOf place with
    | false =>
      rw [moves] at due
      exact ih behind (getElem?_step_other there moves) (due.later (version_le_step watched move))
    | true =>
      rw [moves] at due
      cases move with
      | step moved choice =>
        obtain rfl : moved = place := beq_iff_eq.mp moves
        have found := ih (by exact behind) (getElem?_step_own there choice)
          (due.step (any [] List.nil_prefix) choice)
        exact found
      | publish _ | describe _ | pass _ | call _ => cases moves

/-- A selection that is called for finds a server by its first step if there is one then that it may
return. -/
theorem found_of_call {criteria : Criteria} {between : List Move}
    (idle : ∀ move ∈ between, move.isStepOf watched.watchers.length = false)
    (any : ((Move.call criteria :: between).foldl Watched.step watched).topology.selectable criteria
      ≠ []) (choice : Nat) :
    ∃ server, ((Move.call criteria :: (between ++ [.step watched.watchers.length choice])).foldl
        Watched.step watched).watchers[watched.watchers.length]?
      = some { watched.called criteria with watch := .ended (.ok server) } := by
  -- Until then it is about to look, and what it sees by that is all it needs.
  have called : (watched.step (.call criteria)).watchers[watched.watchers.length]?
      = some (watched.called criteria) := List.getElem?_concat_length
  have waits := getElem?_foldl_other called idle
  have looks : ∃ server, (watched.called criteria).look
      (between.foldl Watched.step (watched.step (.call criteria))) choice = .ended (.ok server) :=
    exists_look any choice
  obtain ⟨server, look⟩ := looks
  refine ⟨server, ?_⟩
  rw [List.foldl_cons, List.foldl_append, List.foldl_cons, List.foldl_nil,
    getElem?_step_own waits]
  exact congrArg (fun watch => some { watched.called criteria with watch }) look

end Progress

/-- A selection that has not failed is due while there always was a server that met its criteria
since the latest change was published. -/
theorem Sound.due {type : TopologyType} {options : TopologyOptions} {past : List Move}
    {place : Nat} {watcher : Watcher} (sound : Sound type options past place watcher)
    (meets : ∀ moment, moment <+: past →
      (run type options moment).version = (run type options past).version →
      (run type options moment).topology.eligible watcher.criteria ≠ [])
    (going : ∀ cause, watcher.watch ≠ .ended (.error cause)) (steps : Nat) :
    Due (run type options past).version watcher.watch (steps + 2) := by
  -- One that waits with nothing unseen has looked since then, and one that has failed is left out.
  cases sound with
  | looking watch =>
    rw [watch]
    exact .looking
  | behind watch unseen =>
    rw [watch]
    exact .waiting unseen
  | idle watch looked =>
    obtain ⟨before, choice, taken, same, none⟩ := looked
    exact absurd none (meets before ((List.prefix_append _ _).trans taken) same)
  | found watch taken stored last same there =>
    rw [watch]
    exact .found
  | failed watch taken late looked => exact absurd watch (going _)

end Watched

end DocWire
