import DocWire.Proofs.Operation.Lease
import DocWire.Proofs.Session.Closing

/-! What is done in silence: whoever acquires a source and checks a connection out, and whoever
gives both back, sends nothing to any server. -/

namespace DocWire

/-- The messages that have gone out, each over the connection of a number. -/
def World.sent (world : World) : List (Nat × Bytes) := world.network.sent

namespace Act

variable {α : Type}

/-- Work that sends nothing, however it ends. -/
abbrev Silent (work : Act α) : Prop := Work.Keeps World.sent work

namespace Silent

/-- How an attempt ended sends nothing. -/
theorem resume (result : Except Halt α) : Silent (Act.resume result) := by
  cases result with
  | error halt => exact .throw halt
  | ok value => exact .pure value

/-- Work that is attempted sends what it sends otherwise. -/
theorem attempt {work : Act α} (silent : Silent work) : Silent (Act.attempt work) := silent

/-- Two things that are both done are silent when each of them is. -/
theorem both {first second : Act Unit} (one : Silent first) (two : Silent second) :
    Silent (Act.both first second) :=
  .bind one.attempt fun _ => .bind two.attempt fun _ => .bind (resume _) fun _ => resume _

end Silent

theorem silent_emit (event : Event) : Silent (emit event) := fun _ => rfl

theorem silent_freshCount : Silent freshCount := fun _ => rfl

theorem silent_retain (key : Nat) (what : Counted) : Silent (retain key what) :=
  .bind .get fun _ => .bind (keeps_checkLifecycle _) fun _ _ => rfl

theorem silent_releaseThen {teardown : Act Unit} (key : Nat) (what : Counted)
    (silent : Silent teardown) : Silent (releaseThen key what teardown) := by
  have release : Silent (Act.release key what) :=
    .bind .get fun _ => .bind (keeps_checkLifecycle _) fun _ => .bind (fun _ => rfl) fun _ =>
      .pure _
  refine .bind release fun last => ?_
  cases last with
  | false => exact .pure _
  | true => exact silent

/-- The close of a session by the binding that owns it is not told to any server. -/
theorem silent_closeOwnedSession (session : Nat) : Silent (closeOwnedSession session) := by
  have closes : Silent (closeSession session) := by
    intro world
    simp only [closeSession, Work.bind_apply, Work.get_apply]
    cases (world.sessions.get session).close <;> rfl
  refine .bind closes.attempt fun result => ?_
  -- However the close ended, that is only reported.
  rcases result with halt | _
  · exact .bind (silent_emit _) fun _ => .throw _
  · exact silent_emit _

theorem silent_select (topology : Nat) (criteria : Criteria) : Silent (select topology criteria) :=
  keeps_select (fun _ _ _ => rfl) (fun _ _ _ => rfl) (fun _ _ => rfl) topology criteria

theorem silent_releaseConnection (connection : Nat) : Silent (releaseConnection connection) := by
  intro world
  rw [releaseConnection, changeLine, exchange_apply]
  simp only [World.sent, World.putLine, Work.bind_apply, Work.get_apply, Line.release]
  cases (world.line connection none none).connection.references.release .connection with
  | error fault => rfl
  | ok given =>
    obtain ⟨last, references⟩ := given
    cases last with
    | false => rfl
    -- The last reference closes the connection, which sends nothing either.
    | true => exact Line.sent_close _ _

end Act

open Act

theorem Binding.silent_release (binding : Binding) : Silent binding.release := by
  induction binding with
  | cluster count topology preference => exact silent_releaseThen _ _ (.pure _)
  | session count inner held owned ih =>
    refine silent_releaseThen _ _ (.both ?_ ih)
    cases owned with
    | false => exact .pure _
    | true => exact silent_closeOwnedSession held

theorem Source.silent_release (source : Source) : Silent source.release := by
  induction source with
  | server count binding selected => exact silent_releaseThen _ _ binding.silent_release
  | session count binding inner ih =>
    exact silent_releaseThen _ _ (.both ih binding.silent_release)

theorem Binding.silent_finishAcquire (binding : Binding) (selected : Server) :
    Silent (binding.finishAcquire selected) := by
  induction binding with
  | cluster count topology preference =>
    exact .bind (silent_retain _ _) fun _ => .bind silent_freshCount fun _ => .pure _
  | session count inner held owned ih =>
    refine .bind ih fun inside => .bind (silent_retain _ _).attempt fun retained => ?_
    rcases retained with halt | _
    · -- What could not be retained gives the source inside back.
      have back : Silent (giveBack inside) := by
        refine .bind inside.silent_release.attempt fun result => ?_
        rcases result with halt | _
        · exact silent_emit _
        · exact .pure _
      exact .bind back fun _ => .throw _
    · exact .bind silent_freshCount fun _ => .pure _

theorem Binding.silent_acquire (binding : Binding) (intent : Intent) :
    Silent (binding.acquire intent) :=
  .bind binding.keeps_beginAcquire fun _ => .bind (silent_select _ _) fun selected =>
    binding.silent_finishAcquire selected

/-- Whoever gives a connection and a source back sends nothing. -/
theorem Act.silent_releaseLease (connection : Option Nat) (source : Source) :
    Silent (releaseLease connection source) := by
  have noted (result : Except Halt Unit) : Silent (noteRelease result) := by
    cases result with
    | ok _ => exact .pure _
    | error halt => exact silent_emit _
  have connectionEnd : Silent (connection.forM releaseConnection) := by
    cases connection with
    | none => exact .pure _
    | some connection => exact silent_releaseConnection connection
  -- Both are tried whatever comes of the other, and what went wrong is told at the end.
  exact .bind connectionEnd.attempt fun _ => .bind source.silent_release.attempt fun _ =>
    .bind (noted _) fun _ => .bind (noted _) fun _ => .bind (Silent.resume _) fun _ =>
      Silent.resume _

end DocWire
