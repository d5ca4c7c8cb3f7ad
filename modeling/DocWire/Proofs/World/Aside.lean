import DocWire.Proofs.World.Counts

/-! Work that stays aside: whoever holds references or sessions does not notice it. The selection of
a server is such work, however it ends. -/

namespace DocWire

/-- What holders of references and sessions look at. -/
structure World.Shared where
  counts : Table References
  sessions : Table ClientSession
  nextKey : Nat
  closings : Nat

/-- What holders of references and sessions look at in a world. -/
def World.shared (world : World) : World.Shared :=
  ⟨world.counts, world.sessions, world.nextKey, world.closings⟩

namespace Act

/-- Work that leaves what holders look at alone, however it ends. -/
abbrev Aside {α : Type} (work : Act α) : Prop := Work.Keeps World.shared work

variable {α : Type}

/-- A check of a use after its time changes nothing. -/
theorem keeps_checkLifecycle {τ : Type} {view : World → τ} (result : Except LifecycleFault α) :
    Work.Keeps view (checkLifecycle result) := by
  -- Work that is refused changes as little as work that goes on.
  cases result with
  | ok value => exact .pure value
  | error fault => exact .throw _

/-- A check of a count changes nothing. -/
theorem keeps_ensureLive {τ : Type} {view : World → τ} (key : Nat) (what : Counted) :
    Work.Keeps view (ensureLive key what) :=
  .bind .get fun _ => keeps_checkLifecycle _

/-- A report is aside, unless it tells of the end of a session. -/
theorem aside_emit {event : Event} (other : event ≠ .sessionClosed) : Aside (emit event) := by
  intro world
  -- The one event that is counted is not the one that was added.
  simp [Act.emit, World.shared, World.closings, Network.emit, List.count_append, other]

/-- What is published is aside. -/
theorem aside_setTopology (topology : Nat) (current : Topology) :
    Aside (setTopology topology current) := fun _ => rfl

/-- The passing of time is aside. -/
theorem aside_advance (time : Nat) : Aside (advance time) := fun _ => rfl

section Selection

variable {τ : Type} {view : World → τ}

/-- Work that nobody waits for keeps what the passing of time keeps. -/
theorem keeps_dropWork (advances : ∀ time, Work.Keeps view (advance time)) :
    Work.Keeps view (dropWork : Act α) :=
  .bind .get fun _ => .bind (advances _) fun _ => .throw _

/-- The search for servers keeps what its reports, the publications and the passing of time keep. -/
theorem keeps_selectAmong (emits : ∀ event, event ≠ .sessionClosed → Work.Keeps view (emit event))
    (sets : ∀ topology current, Work.Keeps view (setTopology topology current))
    (advances : ∀ time, Work.Keeps view (advance time)) (topology : Nat) (criteria : Criteria)
    (publications : List (Nat × Publication)) :
    Work.Keeps view (selectAmong topology criteria publications) := by
  refine .bind .get fun world => .bind (emits _ (by simp)) fun _ => ?_
  -- The search tells that it waits, or does not, and then ends in one of three ways.
  dsimp only
  split
  case' isTrue => refine .bind (emits _ (by simp)) fun _ => ?_
  all_goals
    split
    · exact .bind (sets _ _) fun _ => .bind (advances _) fun _ => .pure _
    · exact .bind (sets _ _) fun _ => .bind (advances _) fun _ =>
        .bind (emits _ (by simp)) fun _ => .throw _
    · exact .bind (sets _ _) fun _ => keeps_dropWork advances

/-- The choice among the servers that were found keeps what its report and the passing of time
keep. -/
theorem keeps_settleOn (emits : ∀ event, event ≠ .sessionClosed → Work.Keeps view (emit event))
    (advances : ∀ time, Work.Keeps view (advance time)) (criteria : Criteria)
    (servers : List Server) : Work.Keeps view (settleOn criteria servers) := by
  refine .bind .get fun world => ?_
  -- One server is picked out of those that fit, if there is any.
  split
  · exact .bind (emits _ (by simp)) fun _ => .pure _
  · exact keeps_dropWork advances

/-- The selection of a server keeps what its reports, the publications and the passing of time
keep. -/
theorem keeps_select (emits : ∀ event, event ≠ .sessionClosed → Work.Keeps view (emit event))
    (sets : ∀ topology current, Work.Keeps view (setTopology topology current))
    (advances : ∀ time, Work.Keeps view (advance time)) (topology : Nat) (criteria : Criteria) :
    Work.Keeps view (select topology criteria) :=
  .bind (keeps_selectAmong emits sets advances _ _ _) fun _ => keeps_settleOn emits advances _ _

end Selection

/-- The selection of a server is aside. -/
theorem aside_select (topology : Nat) (criteria : Criteria) : Aside (select topology criteria) :=
  keeps_select (fun _ other => aside_emit other) aside_setTopology aside_advance _ _

end Act
end DocWire
