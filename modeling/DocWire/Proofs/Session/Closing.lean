import DocWire.Proofs.Binding.Borrowing

/-! The closing of sessions: what a close does to the sessions and to the pools, whether it is asked
for or comes with the last release of a binding or of a source. -/

namespace DocWire

namespace World

/-- The idle sessions of a pool, the one given back last coming first. -/
def idle (world : World) (pool : Nat) : List ServerSession := (world.pools.get pool).idle

/-- What the world knows of sessions: those of clients, the pools, and what comes next. -/
def stock (world : World) : Table ClientSession × Table SessionPool × Nat × Nat :=
  (world.sessions, world.pools, world.nextSession, world.nextKey)

/-- What sessions give back to a pool, in their order. -/
def returns (world : World) (pool : Nat) (sessions : List Nat) : List ServerSession :=
  (sessions.filter fun key => (world.sessions.get key).pool = pool).map fun key =>
    (world.sessions.get key).server

/-- Sessions that were open were closed, each once, and the last of them comes first: the server
session of each went to the front of its pool, and nothing else became of sessions and pools. -/
structure Closed (closed : List Nat) (before after : World) : Prop where
  distinct : closed.Nodup
  wereOpen : ∀ key ∈ closed, (before.sessions.get key).closed = false
  sessions : ∀ key, after.sessions.get key = { before.sessions.get key with
    closed := (before.sessions.get key).closed || decide (key ∈ closed) }
  idle : ∀ pool, after.idle pool = before.returns pool closed ++ before.idle pool
  nextSession : after.nextSession = before.nextSession
  nextKey : before.nextKey ≤ after.nextKey

variable {before middle after : World}

namespace Closed

/-- Nothing is closed where neither sessions nor pools change. -/
theorem none (sessions : after.sessions = before.sessions) (pools : after.pools = before.pools)
    (nextSession : after.nextSession = before.nextSession)
    (nextKey : before.nextKey ≤ after.nextKey) : Closed [] before after := by
  refine ⟨.nil, by simp, fun key => ?_, fun pool => ?_, nextSession, nextKey⟩
  · simp [sessions]
  · simp [returns, World.idle, pools]

/-- What was closed does not depend on what else the worlds hold. -/
theorem of_stock {closed : List Nat} {other : World} (done : Closed closed before after)
    (first : before.stock = middle.stock) (last : after.stock = other.stock) :
    Closed closed middle other := by
  -- Of the worlds, nothing but sessions, pools and what comes next is spoken of.
  obtain ⟨distinct, wereOpen, sessions, idle, nextSession, nextKey⟩ := done
  simp only [stock, Prod.mk.injEq] at first last
  simp only [World.idle, returns, first.1, first.2.1, first.2.2.1, first.2.2.2, last.1, last.2.1,
    last.2.2.1, last.2.2.2] at wereOpen sessions idle nextSession nextKey
  exact ⟨distinct, wereOpen, sessions, idle, nextSession, nextKey⟩

/-- What was closed first and what was closed then were closed together. -/
theorem trans {first second : List Nat} (one : Closed first before middle)
    (two : Closed second middle after) : Closed (second ++ first) before after := by
  -- A session keeps its server session and its pool, so it gives back the same from either world.
  have returned (pool : Nat) : middle.returns pool second = before.returns pool second := by
    simp only [returns, one.sessions]
  have stillOpen (key : Nat) (member : key ∈ second) :
      (before.sessions.get key).closed = false ∧ key ∉ first := by
    simpa [one.sessions] using two.wereOpen key member
  refine ⟨?_, fun key member => ?_, fun key => ?_, fun pool => ?_, ?_, ?_⟩
  · refine List.nodup_append.mpr ⟨two.distinct, one.distinct, ?_⟩
    rintro key later _ earlier rfl
    exact (stillOpen key later).2 earlier
  · exact (List.mem_append.mp member).elim (fun later => (stillOpen key later).1)
      (one.wereOpen key)
  · simp only [two.sessions, one.sessions, List.mem_append, Bool.decide_or, Bool.or_assoc]
    rw [Bool.or_comm (decide (key ∈ second))]
  · rw [two.idle, one.idle, returned, ← List.append_assoc]
    simp [returns]
  · rw [two.nextSession, one.nextSession]
  · exact Nat.le_trans one.nextKey two.nextKey

end Closed

/-- A session that is open is closed by its end. -/
theorem closed_one {session : Nat} (world : World)
    (usable : (world.sessions.get session).closed = false) :
    Closed [session] world (world.endSession session) := by
  refine ⟨by simp, by simpa using usable, fun key => ?_, fun pool => ?_, rfl,
    Nat.le_refl _⟩
  · -- The entry under the number of the session is the only one that is put back changed.
    by_cases same : key = session
    · subst same
      simp [endSession, Table.get, Table.get?_set]
    · simp [endSession, Table.get, Table.get?_set, same]
  · by_cases same : pool = (world.sessions.get session).pool
    · subst same
      simp [World.idle, endSession, returns, Table.get, Table.get?_set, SessionPool.checkIn]
    · have other : ¬ (world.sessions.get session).pool = pool := fun eq => same eq.symm
      simp only [Table.get] at same other
      simp [World.idle, endSession, returns, Table.get, Table.get?_set, same, other]

end World

namespace Act

variable {α β : Type} {among : List Nat} {world : World}

/-- Work that does nothing to sessions and pools but to close some of the given sessions, however it
ends. -/
def Closes (among : List Nat) (work : Act α) : Prop :=
  ∀ world, ∃ closed ⊆ among, World.Closed closed world (work world).2

/-- A value that may come of work. -/
def Yields (work : Act α) (value : α) : Prop := ∃ world after, work world = (.ok value, after)

namespace Closes

/-- Work that leaves sessions and pools alone closes none. -/
theorem of_keeps {work : Act α} (kept : Work.Keeps World.stock work) : Closes among work := by
  intro world
  have same := kept world
  simp only [World.stock, Prod.mk.injEq] at same
  exact ⟨[], by simp, .none same.1 same.2.1 same.2.2.1 (Nat.le_of_eq same.2.2.2.symm)⟩

/-- Whoever closes some of a few sessions closes some of more. -/
theorem mono {work : Act α} {more : List Nat} (closes : Closes among work) (within : among ⊆ more) :
    Closes more work := by
  intro world
  obtain ⟨closed, listed, done⟩ := closes world
  exact ⟨closed, List.Subset.trans listed within, done⟩

/-- Work closes what both its parts close. -/
theorem bind {work : Act α} {next : α → Act β} (first : Closes among work)
    (second : ∀ value, Yields work value → Closes among (next value)) :
    Closes among (work >>= next) := by
  -- A first part that fails has closed what it closed, and the second does not run.
  intro world
  obtain ⟨earlier, inFirst, one⟩ := first world
  rw [Work.bind_apply]
  rcases result : work world with ⟨halt | value, middle⟩
  · rw [result] at one
    exact ⟨earlier, inFirst, one⟩
  · rw [result] at one
    obtain ⟨later, inSecond, two⟩ := second value ⟨world, middle, result⟩ middle
    exact ⟨later ++ earlier, List.append_subset.mpr ⟨inSecond, inFirst⟩, one.trans two⟩

/-- Work that is attempted closes what it closes otherwise. -/
theorem attempt {work : Act α} (closes : Closes among work) : Closes among (Act.attempt work) :=
  closes

/-- How an attempt ended changes nothing. -/
theorem resume (result : Except Halt α) : Closes among (Act.resume result) := by
  cases result with
  | error halt => exact .of_keeps (.throw _)
  | ok value => exact .of_keeps (.pure _)

/-- Two things that are both done close what each of them closes. -/
theorem both {first second : Act Unit} (one : Closes among first) (two : Closes among second) :
    Closes among (Act.both first second) :=
  .bind one.attempt fun _ _ => .bind two.attempt fun _ _ => .bind (.resume _) fun _ _ => .resume _

end Closes

/-- A reference that is taken has nothing to do with sessions. -/
theorem closes_retain (key : Nat) (what : Counted) : Closes among (retain key what) :=
  .of_keeps <| .bind .get fun _ => .bind (keeps_checkLifecycle _) fun _ _ => rfl

/-- A reference that is given up has nothing to do with sessions. -/
theorem keeps_release (key : Nat) (what : Counted) : Work.Keeps World.stock (release key what) :=
  .bind .get fun _ => .bind (keeps_checkLifecycle _) fun _ => .bind (fun _ => rfl) fun _ => .pure _

/-- A reference that is given up closes what the teardown closes. -/
theorem closes_releaseThen {teardown : Act Unit} (key : Nat) (what : Counted)
    (closes : Closes among teardown) : Closes among (releaseThen key what teardown) := by
  -- A reference that is not the last is given up alone.
  refine .bind (.of_keeps (keeps_release key what)) fun last _ => ?_
  cases last with
  | false => exact .of_keeps (.pure _)
  | true => exact closes

/-- A new count has nothing to do with sessions, though it takes a number. -/
theorem closes_freshCount : Closes among freshCount := by
  intro world
  exact ⟨[], by simp, .none rfl rfl rfl (Nat.le_succ _)⟩

/-- The selection of a server has nothing to do with sessions. -/
theorem closes_select (topology : Nat) (criteria : Criteria) :
    Closes among (select topology criteria) :=
  .of_keeps <| keeps_select (fun _ _ _ => rfl) (fun _ _ _ => rfl) (fun _ _ => rfl) _ _

/-- A session that is open is closed, and its server session goes back to its pool. -/
theorem closeSession_open {session : Nat} (usable : (world.sessions.get session).closed = false) :
    ∃ after, closeSession session world = (.ok (), after) ∧ World.Closed [session] world after := by
  -- Unlike the close by a binding, this one is not reported.
  refine ⟨{ world.endSession session with network := world.network }, ?_,
    (World.closed_one world usable).of_stock rfl rfl⟩
  simp [closeSession, ClientSession.close, usable, checkLifecycle, checkIn, World.endSession]

/-- A session that was closed is not closed again, and nothing happens to the world. -/
theorem closeSession_closed {session : Nat}
    (done : (world.sessions.get session).closed = true) :
    closeSession session world = (.error (.ofCause (.lifecycle .sessionClosedTwice)), world) := by
  simp [closeSession, ClientSession.close, done, checkLifecycle, fail]

/-- A session that was closed is not closed again by the binding that owns it: all that happens is
that the failure is reported. -/
theorem closeOwnedSession_closed {session : Nat}
    (done : (world.sessions.get session).closed = true) :
    closeOwnedSession session world = (.error (.ofCause (.lifecycle .sessionClosedTwice)),
      { world with network := world.network.emit .sessionNotClosed }) := by
  simp [closeOwnedSession, attempt, closeSession_closed done, emit]

/-- The close of a session closes no other. -/
theorem closes_closeSession (session : Nat) : Closes [session] (closeSession session) := by
  -- A session that is open is the one that is closed, and one that is closed stays as it is.
  intro world
  cases usable : (world.sessions.get session).closed with
  | false =>
    obtain ⟨after, closed, done⟩ := closeSession_open usable
    rw [closed]
    exact ⟨[session], List.Subset.refl _, done⟩
  | true =>
    rw [closeSession_closed usable]
    exact ⟨[], by simp, .none rfl rfl rfl (Nat.le_refl _)⟩

/-- The close of a session by the binding that owns it closes no other. -/
theorem closes_closeOwnedSession (session : Nat) :
    Closes [session] (closeOwnedSession session) := by
  -- However the close ended, only a report of it comes after.
  refine .bind (closes_closeSession session).attempt fun result _ => ?_
  rcases result with halt | _
  · exact .of_keeps (.bind (fun _ => rfl) fun _ => .throw _)
  · exact .of_keeps fun _ => rfl

/-- Of two things the first of which succeeds, the second decides. -/
theorem both_of_ok {first second : Act Unit} {middle : World}
    (one : first world = (.ok (), middle)) : both first second world = second middle := by
  -- The success of the first is forgotten, and the end of the second is the end of both.
  simp only [both, attempt, Work.bind_apply, one, resume]
  rcases second middle with ⟨_ | _, after⟩ <;> rfl

/-- Of two things the first of which fails, the second is done, and the failure stays. -/
theorem both_of_error {first second : Act Unit} {middle : World} {halt : Halt}
    (one : first world = (.error halt, middle)) :
    both first second world = (.error halt, (second middle).2) := by
  -- The failure is kept while the second is done, and thrown then.
  simp only [both, attempt, Work.bind_apply, one, resume]
  rfl

end Act

/-- The sessions of a binding and of the bindings inside it. -/
def Binding.sessions : Binding → List Nat
  | cluster .. => []
  | session _ inner held _ => held :: inner.sessions

/-- The sessions of the bindings that a source holds. -/
def Source.sessions : Source → List Nat
  | server _ binding _ => binding.sessions
  | session _ binding inner => binding.sessions ++ inner.sessions

namespace Binding

/-- The release of a binding closes no sessions but those of the binding and of the bindings inside.
-/
theorem closes_release (binding : Binding) : Act.Closes binding.sessions binding.release := by
  induction binding with
  | cluster count topology preference =>
    exact Act.closes_releaseThen _ _ (.of_keeps (.pure _))
  | session count inner held owned ih =>
    refine Act.closes_releaseThen _ _ (.both ?_ (ih.mono (List.subset_cons_self _ _)))
    -- Only an owned session is closed along with the binding.
    cases owned with
    | false => exact .of_keeps (.pure _)
    | true => exact (Act.closes_closeOwnedSession held).mono (by simp [sessions])

variable {count session : Nat} {world claimed : World}

/-- The last release of a binding that owns its session closes the session, and then gives up the
binding inside. -/
theorem release_last_open (inner : Binding)
    (last : Act.release count .sessionBinding world = (.ok true, claimed))
    (usable : (world.sessions.get session).closed = false) :
    ∃ after, World.Closed [session] world after ∧
      (Binding.session count inner session true).release world = inner.release after := by
  -- To give the reference up leaves the session as open as it was.
  have kept : claimed.stock = world.stock := by
    simpa only [last] using Act.keeps_release count .sessionBinding world
  have stillOpen : (claimed.sessions.get session).closed = false :=
    (congrArg (fun stock => (stock.1.get session).closed) kept).trans usable
  refine ⟨claimed.endSession session, (World.closed_one claimed stillOpen).of_stock kept rfl, ?_⟩
  simp only [release, Act.releaseThen, Work.bind_apply, last, if_true]
  exact Act.both_of_ok (Act.closeOwnedSession_open stillOpen)

/-- The last release of a binding that owns a session which is closed already fails for the second
close, and does nothing but to give up the binding inside. -/
theorem release_last_closed (inner : Binding)
    (last : Act.release count .sessionBinding world = (.ok true, claimed))
    (done : (world.sessions.get session).closed = true) :
    ∃ after, World.Closed [] world after ∧
      (Binding.session count inner session true).release world
        = (.error (.ofCause (.lifecycle .sessionClosedTwice)), (inner.release after).2) := by
  -- To give the reference up leaves the session as closed as it was.
  have kept : claimed.stock = world.stock := by
    simpa only [last] using Act.keeps_release count .sessionBinding world
  have stillClosed : (claimed.sessions.get session).closed = true :=
    (congrArg (fun stock => (stock.1.get session).closed) kept).trans done
  refine ⟨{ claimed with network := claimed.network.emit .sessionNotClosed },
    (World.Closed.none rfl rfl rfl (Nat.le_refl _)).of_stock kept rfl, ?_⟩
  simp only [release, Act.releaseThen, Work.bind_apply, last, if_true]
  exact Act.both_of_error (Act.closeOwnedSession_closed stillClosed)

end Binding

namespace Source

/-- The release of a source closes no sessions but those of the bindings that it holds. -/
theorem closes_release (source : Source) : Act.Closes source.sessions source.release := by
  -- A source gives up its binding, and one under a session the source inside before that.
  induction source with
  | server count binding selected =>
    exact Act.closes_releaseThen _ _ binding.closes_release
  | session count binding inner ih =>
    exact Act.closes_releaseThen _ _ (.both (ih.mono (List.subset_append_right _ _))
      (binding.closes_release.mono (List.subset_append_left _ _)))

end Source

namespace Binding

/-- A source that is acquired from a binding holds no sessions but those of the binding. -/
theorem sessions_finishAcquire {binding : Binding} {selected : Server} {source : Source}
    (acquired : Act.Yields (binding.finishAcquire selected) source) :
    source.sessions ⊆ binding.sessions := by
  obtain ⟨world, after, acquired⟩ := acquired
  induction binding generalizing source world after with
  | cluster count topology preference =>
    obtain ⟨_, _, -, made⟩ := Work.bind_ok acquired
    obtain ⟨_, _, -, made⟩ := Work.bind_ok made
    cases made
    exact List.Subset.refl _
  | session count inner held owned ih =>
    obtain ⟨inside, _, lent, made⟩ := Work.bind_ok acquired
    obtain ⟨retained, _, -, made⟩ := Work.bind_ok made
    rcases retained with halt | _
    · -- What could not be retained was given back, and the failure went on.
      obtain ⟨_, _, -, made⟩ := Work.bind_ok made
      cases made
    · obtain ⟨_, _, -, made⟩ := Work.bind_ok made
      cases made
      exact List.append_subset.mpr
        ⟨List.Subset.refl _, List.Subset.trans (ih _ _ lent) (List.subset_cons_self _ _)⟩

/-- The end of an acquisition closes no sessions but those of the binding. -/
theorem closes_finishAcquire (binding : Binding) (selected : Server) :
    Act.Closes binding.sessions (binding.finishAcquire selected) := by
  induction binding with
  | cluster count topology preference =>
    exact .bind (Act.closes_retain _ _) fun _ _ => .bind Act.closes_freshCount fun _ _ =>
      .of_keeps (.pure _)
  | session count inner held owned ih =>
    refine .bind (ih.mono (List.subset_cons_self _ _)) fun inside lent => ?_
    refine .bind (Act.closes_retain _ _).attempt fun retained _ => ?_
    rcases retained with halt | _
    · -- The source inside goes back, and what becomes of that is only reported.
      have within : inside.sessions ⊆ held :: inner.sessions :=
        List.Subset.trans (sessions_finishAcquire lent) (List.subset_cons_self _ _)
      have back : Act.Closes (held :: inner.sessions) (giveBack inside) := by
        refine .bind (inside.closes_release.mono within).attempt fun result _ => ?_
        rcases result with halt | _
        · exact .of_keeps fun _ => rfl
        · exact .of_keeps (.pure _)
      exact .bind back fun _ _ => .of_keeps (.throw _)
    · exact .bind Act.closes_freshCount fun _ _ => .of_keeps (.pure _)

/-- A source that is acquired from a binding holds no sessions but those of the binding. -/
theorem sessions_acquire {binding : Binding} {intent : Intent} {source : Source}
    (acquired : Act.Yields (binding.acquire intent) source) :
    source.sessions ⊆ binding.sessions := by
  -- Only the end of an acquisition makes a source.
  obtain ⟨world, after, acquired⟩ := acquired
  obtain ⟨_, _, -, selecting⟩ := Work.bind_ok acquired
  obtain ⟨selected, middle, -, finished⟩ := Work.bind_ok selecting
  exact sessions_finishAcquire ⟨middle, after, finished⟩

/-- An acquisition closes no sessions but those of the binding. -/
theorem closes_acquire (binding : Binding) (intent : Intent) :
    Act.Closes binding.sessions (binding.acquire intent) :=
  .bind (.of_keeps binding.keeps_beginAcquire) fun _ _ =>
    .bind (Act.closes_select _ _) fun selected _ => binding.closes_finishAcquire selected

end Binding
end DocWire
