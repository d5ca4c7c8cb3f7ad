import DocWire.Proofs.World.Aside

/-! A binding to a cluster under a session: what one call on it or on a source of it does to the
counts, to the session and to the reports. -/

namespace DocWire

/-- A binding to a cluster and the binding under a session around it, by the numbers of their
counts. -/
structure Wrapping where
  outer : Nat
  inner : Nat
  topology : Nat
  preference : ReadPreference
  session : Nat
  owned : Bool

/-- The numbers of the counts of a source and of the sources inside it. -/
def Source.keys : Source → List Nat
  | server count _ _ => [count]
  | session count _ inner => count :: inner.keys

namespace Wrapping

variable (wrapping : Wrapping)

/-- The binding to the cluster. -/
def wrapped : Binding := .cluster wrapping.inner wrapping.topology wrapping.preference

/-- The binding under the session. -/
def binding : Binding :=
  .session wrapping.outer wrapping.wrapped wrapping.session wrapping.owned

/-- A source of the binding, by the numbers of its count and of the count of the source inside. -/
def source (count inside : Nat) (server : Server) : Source :=
  .session count wrapping.binding (.server inside wrapping.wrapped server)

/-- Whether the session is closed. -/
def closed (world : World) : Bool := (world.sessions.get wrapping.session).closed

@[simp] theorem closed_setRefs (world : World) (key : Nat) (given : References) :
    wrapping.closed (world.setRefs key given) = wrapping.closed world := rfl

/-- What the release of a reference to the binding does: the last one ends the session that the
binding owns, and gives up the one reference to the binding inside. -/
structure Released (left inside : Nat) (before after : World) : Prop where
  refs : ∀ key, after.refs key =
    if key = wrapping.outer then .held left
    else if key = wrapping.inner ∧ left = 0 then .held inside
    else before.refs key
  closed : wrapping.closed after =
    if wrapping.owned ∧ left = 0 then true else wrapping.closed before
  nextKey : after.nextKey = before.nextKey
  closings : after.closings = before.closings + if wrapping.owned ∧ left = 0 then 1 else 0

variable {wrapping} {world : World} {left inside : Nat}

/-- A reference to the binding inside is given up, and nothing else happens. -/
theorem release_wrapped (given : world.refs wrapping.inner = .held (inside + 1)) :
    wrapping.wrapped.release world = (.ok (), world.setRefs wrapping.inner (.held inside)) := by
  -- Nothing is torn down with a binding to a cluster.
  rw [wrapped, Binding.release, Act.releaseThen_held _ given]
  split
  -- Whether it was the last reference or not, the count is all that changes.
  case isTrue last => simp [last]
  case isFalse => rfl

/-- A reference to the binding that is held can be given up. -/
theorem release_binding (apart : wrapping.inner ≠ wrapping.outer)
    (held : world.refs wrapping.outer = .held (left + 1))
    (given : world.refs wrapping.inner = .held (inside + 1))
    (usable : wrapping.owned → wrapping.closed world = false) :
    ∃ after, wrapping.binding.release world = (.ok (), after) ∧
      wrapping.Released left inside world after := by
  rw [binding, Binding.release, Act.releaseThen_held _ held]
  by_cases last : left = 0
  case neg =>
    -- Somebody else still holds a reference, so there is no teardown.
    refine ⟨world.setRefs wrapping.outer (.held left), by simp [last], ?_, ?_, rfl, ?_⟩
    · intro key
      simp [last]
    · simp [closed, last]
    · simp [last]
  case pos =>
    subst last
    have inner : (world.setRefs wrapping.outer (.held 0)).refs wrapping.inner
        = .held (inside + 1) := by simp [apart, given]
    cases owned : wrapping.owned with
    | false =>
      -- The session belongs to somebody else, who may need it.
      refine ⟨(world.setRefs wrapping.outer (.held 0)).setRefs wrapping.inner (.held inside),
        ?_, ?_, ?_, rfl, ?_⟩
      · simp only [if_true]
        exact Act.both_ok rfl (release_wrapped inner)
      · intro key
        by_cases outside : key = wrapping.outer
        · subst outside
          simp [apart.symm]
        · simp [outside]
      · simp [closed, owned]
      · simp [owned]
    | true =>
      have unended : ((world.setRefs wrapping.outer (.held 0)).sessions.get wrapping.session).closed
          = false := usable owned
      -- The session ends first, and then the reference is given up.
      refine ⟨((world.setRefs wrapping.outer (.held 0)).endSession wrapping.session).setRefs
        wrapping.inner (.held inside), ?_, ?_, ?_, rfl, ?_⟩
      · simp only [if_true]
        exact Act.both_ok (Act.closeOwnedSession_open unended)
          (release_wrapped (by simpa using inner))
      · intro key
        by_cases outside : key = wrapping.outer
        · subst outside
          simp [apart.symm]
        · simp [outside]
      · simp [closed, owned]
      · simp [owned]

/-- A reference to a source that is not the last is given up alone. -/
theorem release_source_kept {count : Nat} (within : Nat) (server : Server) (kept : left ≠ 0)
    (held : world.refs count = .held (left + 1)) :
    (wrapping.source count within server).release world
      = (.ok (), world.setRefs count (.held left)) := by
  -- Whoever else holds the source keeps it alive.
  rw [source, Source.release, Act.releaseThen_held _ held, if_neg kept]

/-- The last reference to a source gives up the source inside, and after it the reference that the
source holds to the binding. -/
theorem release_source_last {count within : Nat} (server : Server)
    (distinct : [wrapping.outer, wrapping.inner, count, within].Nodup)
    (held : world.refs count = .held 1) (one : world.refs within = .held 1)
    (outer : world.refs wrapping.outer = .held (left + 1))
    (given : world.refs wrapping.inner = .held (inside + 2))
    (usable : wrapping.owned → wrapping.closed world = false) :
    ∃ after, (wrapping.source count within server).release world = (.ok (), after) ∧
      wrapping.Released left inside
        (((world.setRefs count (.held 0)).setRefs within (.held 0)).setRefs wrapping.inner
          (.held (inside + 1))) after := by
  simp only [List.nodup_cons, List.mem_cons, List.not_mem_nil, or_false, not_or] at distinct
  obtain ⟨⟨outerInner, outerCount, outerWithin⟩, ⟨innerCount, innerWithin⟩, countWithin, -⟩ :=
    distinct
  -- The source inside is held by this one alone, so it goes as well.
  have ended : (Source.server within wrapping.wrapped server).release
        (world.setRefs count (.held 0))
      = (.ok (), ((world.setRefs count (.held 0)).setRefs within (.held 0)).setRefs wrapping.inner
          (.held (inside + 1))) := by
    rw [Source.release, Act.releaseThen_last _ (by simp [Ne.symm countWithin, one])]
    exact release_wrapped (by simp [innerCount, innerWithin, given])
  have outerNow : (((world.setRefs count (.held 0)).setRefs within (.held 0)).setRefs wrapping.inner
      (.held (inside + 1))).refs wrapping.outer = .held (left + 1) := by
    simp [outerInner, outerCount, outerWithin, outer]
  have givenNow : (((world.setRefs count (.held 0)).setRefs within (.held 0)).setRefs wrapping.inner
      (.held (inside + 1))).refs wrapping.inner = .held (inside + 1) := by simp
  -- The binding is asked after the source inside was given up.
  obtain ⟨after, done, released⟩ :=
    release_binding (Ne.symm outerInner) outerNow givenNow usable
  refine ⟨after, ?_, released⟩
  rw [source, Source.release, Act.releaseThen_last _ held]
  exact Act.both_ok ended done

/-- What an acquisition does that comes to a source: both bindings are held once more, and the two
counts of the source are new. -/
structure Acquired (left inside : Nat) (before after : World) : Prop where
  refs : ∀ key, after.refs key =
    if key = before.nextKey + 1 ∨ key = before.nextKey then .held 1
    else if key = wrapping.outer then .held (left + 1)
    else if key = wrapping.inner then .held (inside + 1)
    else before.refs key
  closed : wrapping.closed after = wrapping.closed before
  nextKey : after.nextKey = before.nextKey + 2
  closings : after.closings = before.closings

/-- The world after the binding inside has given a source of its own. -/
def lendInside (wrapping : Wrapping) (inside : Nat) (world : World) : World :=
  (world.setRefs wrapping.inner (.held (inside + 1))).spendKey.setRefs world.nextKey (.held 1)

/-- The binding inside gives a source of its own while it is held. -/
theorem finishAcquire_wrapped (server : Server)
    (given : world.refs wrapping.inner = .held (inside + 1)) :
    wrapping.wrapped.finishAcquire server world
      = (.ok (.server world.nextKey wrapping.wrapped server),
        wrapping.lendInside (inside + 1) world) := by
  -- The reference is had first, and then the source gets a count.
  simp only [wrapped, Binding.finishAcquire, Work.bind_apply, Act.retain_held given,
    Act.freshCount_apply, Work.pure_apply]
  rfl

/-- The binding inside gives no source when it is gone. -/
theorem finishAcquire_wrapped_gone (server : Server) (gone : world.refs wrapping.inner = .held 0) :
    wrapping.wrapped.finishAcquire server world
      = (.error (.ofCause (.lifecycle (.retainedAfterRelease .binding))), world) := by
  -- What is refused ends the acquisition before a number is spent.
  simp only [wrapped, Binding.finishAcquire, Work.bind_apply, Act.retain_gone gone]

/-- While both bindings are held, an acquisition that has selected a server comes to a source. -/
theorem finishAcquire_held (server : Server) (apart : wrapping.inner ≠ wrapping.outer)
    (outerKnown : wrapping.outer < world.nextKey)
    (held : world.refs wrapping.outer = .held (left + 1))
    (given : world.refs wrapping.inner = .held (inside + 1)) :
    ∃ after, wrapping.binding.finishAcquire server world
        = (.ok (wrapping.source (world.nextKey + 1) world.nextKey server), after) ∧
      wrapping.Acquired (left + 1) (inside + 1) world after := by
  -- The source inside is there first, and its count is not the one of the outer binding.
  have outer : (wrapping.lendInside (inside + 1) world).refs wrapping.outer = .held (left + 1) := by
    simp [lendInside, apart.symm, Nat.ne_of_lt outerKnown, held]
  refine ⟨((wrapping.lendInside (inside + 1) world).setRefs wrapping.outer
    (.held (left + 2))).spendKey.setRefs (world.nextKey + 1) (.held 1), ?_, ?_, ?_, ?_, ?_⟩
  · rw [binding, Binding.finishAcquire, Work.bind_apply, finishAcquire_wrapped server given]
    simp only [Work.bind_apply, Act.attempt, Act.retain_held outer, Act.freshCount_apply,
      Work.pure_apply]
    rfl
  · intro key
    simp only [lendInside, World.refs_setRefs, World.refs_spendKey]
    -- Both new numbers lie beyond the numbers of the bindings.
    by_cases new : key = world.nextKey + 1
    · simp [new]
    · by_cases old : key = world.nextKey
      · simp [old, Nat.ne_of_gt outerKnown]
      · simp [new, old]
  · simp [closed, lendInside]
  · simp [lendInside]
  · simp [lendInside]

/-- While only the binding inside is held, the source that it gave goes back, and nothing but a
number has been spent. -/
structure Refused (before after : World) : Prop where
  refs : ∀ key, after.refs key = if key = before.nextKey then .held 0 else before.refs key
  closed : wrapping.closed after = wrapping.closed before
  nextKey : after.nextKey = before.nextKey + 1
  closings : after.closings = before.closings

/-- An acquisition comes to nothing when the outer binding has gone meanwhile. -/
theorem finishAcquire_gone (server : Server) (apart : wrapping.inner ≠ wrapping.outer)
    (outerKnown : wrapping.outer < world.nextKey) (innerKnown : wrapping.inner < world.nextKey)
    (gone : world.refs wrapping.outer = .held 0)
    (given : world.refs wrapping.inner = .held (inside + 1)) :
    ∃ after, wrapping.binding.finishAcquire server world
        = (.error (.ofCause (.lifecycle (.retainedAfterRelease .sessionBinding))), after) ∧
      wrapping.Refused world after := by
  -- The source inside is given before the outer binding is asked.
  let lent := wrapping.lendInside (inside + 1) world
  have outer : lent.refs wrapping.outer = .held 0 := by
    simp [lent, lendInside, apart.symm, Nat.ne_of_lt outerKnown, gone]
  -- What goes back is the last reference to the source, and one to the binding inside.
  have one : lent.refs world.nextKey = .held 1 := by simp [lent, lendInside]
  have inner : (lent.setRefs world.nextKey (.held 0)).refs wrapping.inner
      = .held (inside + 1 + 1) := by
    simp [lent, lendInside, Nat.ne_of_lt innerKnown]
  have back : (Source.server world.nextKey wrapping.wrapped server).release lent
      = (.ok (), (lent.setRefs world.nextKey (.held 0)).setRefs wrapping.inner
          (.held (inside + 1))) := by
    rw [Source.release, Act.releaseThen_last _ one]
    exact release_wrapped inner
  refine ⟨(lent.setRefs world.nextKey (.held 0)).setRefs wrapping.inner (.held (inside + 1)),
    ?_, ?_, ?_, ?_, ?_⟩
  · rw [binding, Binding.finishAcquire, Work.bind_apply, finishAcquire_wrapped server given]
    simp only [Work.bind_apply, Act.attempt, Act.retain_gone outer, Binding.giveBack, back,
      Work.pure_apply, Work.throw_apply, lent]
  · intro key
    simp only [lent, lendInside, World.refs_setRefs, World.refs_spendKey]
    -- What the binding inside lent is back, so its count is what it was.
    by_cases within : key = wrapping.inner
    · simp [within, Nat.ne_of_lt innerKnown, given]
    · simp only [within, if_false]
      split <;> rfl
  · simp [closed, lent, lendInside]
  · simp [lent, lendInside]
  · simp [lent, lendInside]

end Wrapping
end DocWire
