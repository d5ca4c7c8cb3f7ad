import DocWire.Proofs.Binding.Attempts

/-! The counts while attempts to acquire a source are made: which references each attempt accounts
for, whatever comes in between its steps. -/

namespace DocWire

namespace Act

variable {world : World} {key number : Nat} {what : Counted}

/-- Whoever holds a reference can give it up, and is told whether it was the last. -/
theorem release_held (held : world.refs key = .held (number + 1)) :
    release key what world = (.ok (number == 0), world.setRefs key (.held number)) := by
  have counted : world.counts.get key = .held (number + 1) := held
  simp [release, counted, References.release_held, checkLifecycle, World.setRefs]

/-- Nobody gives up a reference to what is gone. -/
theorem release_gone (gone : world.refs key = .held 0) :
    release key what world
      = (.error (.ofCause (.lifecycle (.releasedTooOften what))), world) := by
  have counted : world.counts.get key = .held 0 := gone
  simp [release, counted, References.release_gone, checkLifecycle, fail]

end Act

namespace Wrapping

variable {wrapping : Wrapping} {world : World} {number : Nat}

/-- A release of the binding inside gives up one reference, or is refused when there is none. -/
theorem release_wrapped_apply (given : world.refs wrapping.inner = .held number) :
    (∀ key, (wrapping.wrapped.release world).2.refs key
      = if key = wrapping.inner then .held (number - 1) else world.refs key) ∧
    (wrapping.wrapped.release world).2.nextKey = world.nextKey := by
  cases number with
  | zero =>
    -- The world after a refusal is the same, and there was nothing to take away.
    have refused : wrapping.wrapped.release world
        = (.error (.ofCause (.lifecycle (.releasedTooOften .binding))), world) := by
      simp only [wrapped, Binding.release, Act.releaseThen, Work.bind_apply,
        Act.release_gone given]
    rw [refused]
    refine ⟨fun key => ?_, rfl⟩
    by_cases same : key = wrapping.inner
    · rw [if_pos same, same, given]
    · rw [if_neg same]
  | succ left =>
    rw [release_wrapped given]
    exact ⟨fun key => by simp, rfl⟩

/-- What goes back is the source that the binding inside has given, with its reference. -/
theorem giveBack_apply {within : Nat} (server : Server) (apart : within ≠ wrapping.inner)
    (one : world.refs within = .held 1) (given : world.refs wrapping.inner = .held number) :
    let after := (Binding.giveBack (.server within wrapping.wrapped server) world).2
    (∀ key, after.refs key = if key = within then .held 0
      else if key = wrapping.inner then .held (number - 1) else world.refs key) ∧
    after.nextKey = world.nextKey := by
  intro after
  have inner : (world.setRefs within (.held 0)).refs wrapping.inner = .held number := by
    simp [Ne.symm apart, given]
  obtain ⟨refs, nextKey⟩ := release_wrapped_apply inner
  have released : (Source.server within wrapping.wrapped server).release world
      = wrapping.wrapped.release (world.setRefs within (.held 0)) := by
    rw [Source.release, Act.releaseThen_last _ one]
  -- A reference that cannot be given up is reported, which nobody counts.
  have quiet : (∀ key, after.refs key
        = (wrapping.wrapped.release (world.setRefs within (.held 0))).2.refs key) ∧
      after.nextKey = (wrapping.wrapped.release (world.setRefs within (.held 0))).2.nextKey := by
    simp only [after, Binding.giveBack, Work.bind_apply, Act.attempt, released]
    rcases wrapping.wrapped.release (world.setRefs within (.held 0)) with ⟨halt | _, middle⟩
    · exact ⟨fun _ => rfl, rfl⟩
    · exact ⟨fun _ => rfl, rfl⟩
  obtain ⟨same, number⟩ := quiet
  refine ⟨fun key => ?_, number.trans nextKey⟩
  rw [same, refs]
  by_cases back : key = within
  · rw [if_pos back, back, if_neg apart]
    simp
  · simp [back]

/-- While the outer binding is held, a source around the one inside takes a reference to it and has
a new count. -/
theorem claim_held {inside : Source} (held : world.refs wrapping.outer = .held (number + 1)) :
    wrapping.claim inside world
      = (.ok (.session world.nextKey wrapping.binding inside),
        (world.setRefs wrapping.outer (.held (number + 2))).spendKey.setRefs world.nextKey
          (.held 1)) := by
  simp only [claim, Work.bind_apply, Act.retain_held held, Act.freshCount_apply, Work.pure_apply]
  rfl

/-- Once the outer binding is gone, nothing is put around the source inside. -/
theorem claim_gone {inside : Source} (gone : world.refs wrapping.outer = .held 0) :
    wrapping.claim inside world
      = (.error (.ofCause (.lifecycle (.retainedAfterRelease .sessionBinding))), world) := by
  simp only [claim, Work.bind_apply, Act.retain_gone gone]

/-- What a teardown ends beside the counts. -/
def sessional (world : World) : Table ClientSession × Table SessionPool :=
  (world.sessions, world.pools)

theorem sessional_retain (key : Nat) (what : Counted) :
    Work.Keeps sessional (Act.retain key what) :=
  .bind .get fun _ => .bind (Act.keeps_checkLifecycle _) fun _ _ => rfl

theorem sessional_release (key : Nat) (what : Counted) :
    Work.Keeps sessional (Act.release key what) :=
  .bind .get fun _ => .bind (Act.keeps_checkLifecycle _) fun _ => .bind (fun _ => rfl) fun _ =>
    .pure _

/-- No session ends with a source of the binding inside. -/
theorem sessional_giveBack (wrapping : Wrapping) (within : Nat) (server : Server) :
    Work.Keeps sessional (Binding.giveBack (.server within wrapping.wrapped server)) := by
  -- The teardown of the binding inside does nothing, and the one of the source gives that up.
  have wrapped : Work.Keeps sessional wrapping.wrapped.release := by
    refine .bind (sessional_release _ _) fun last => ?_
    cases last <;> exact .pure _
  have released : Work.Keeps sessional (Source.server within wrapping.wrapped server).release := by
    refine .bind (sessional_release _ _) fun last => ?_
    cases last
    · exact .pure _
    · exact wrapped
  refine .bind (show Work.Keeps sessional (Act.attempt _) from released) fun result => ?_
  cases result
  · exact fun _ => rfl
  · exact .pure _

/-- The session is none of the counts. -/
theorem counted_closing (wrapping : Wrapping) : Work.Keeps World.counted wrapping.closing := by
  -- An owned session is closed, or found closed; in either case no count is touched.
  unfold closing
  split
  · have closes : Work.Keeps World.counted (Act.closeSession wrapping.session) := by
      intro world
      simp only [Act.closeSession, Work.bind_apply, Work.get_apply]
      cases (world.sessions.get wrapping.session).close <;> rfl
    refine .bind (show Work.Keeps World.counted (Act.attempt _) from closes) fun result => ?_
    rcases result with halt | _
    · exact .bind (fun _ => rfl) fun _ => .throw _
    · exact fun _ => rfl
  · exact .pure _

/-- The source of an attempt comes from the binding that the attempt was made on. -/
def Shaped (wrapping : Wrapping) : Attempt → Prop
  | .lent inside | .refused _ inside =>
    ∃ within server, inside = .server within wrapping.wrapped server
  | .returned source => ∃ count within server, source = wrapping.source count within server
  | _ => True

/-- The two bindings have counts of their own, under numbers that were taken for them. -/
structure Placed (wrapping : Wrapping) (world : World) : Prop where
  apart : wrapping.inner ≠ wrapping.outer
  outer : wrapping.outer < world.nextKey
  inner : wrapping.inner < world.nextKey

/-- The counts are accounted for: those of the two bindings by what was held at the start, by the
attempts that have returned a source or are just between the two, and by the releases; those of the
attempts are held once; and all others are what they were. -/
structure Accounted (wrapping : Wrapping) (start : World) (direct others : Nat)
    (contest : Contest) : Prop where
  outer : contest.world.refs wrapping.outer = .held (direct + contest.returned - contest.releases)
  inner : contest.world.refs wrapping.inner = .held (others + contest.returned + contest.carried
    - (contest.lettings + contest.insideReleases))
  shaped : ∀ attempt ∈ contest.attempts, wrapping.Shaped attempt
  own : ∀ attempt ∈ contest.attempts, ∀ key ∈ attempt.keys, contest.world.refs key = .held 1
  distinct : (contest.attempts.flatMap (·.keys)).Nodup
  fresh : ∀ attempt ∈ contest.attempts, ∀ key ∈ attempt.keys,
    start.nextKey ≤ key ∧ key < contest.world.nextKey
  older : ∀ key < start.nextKey, key ≠ wrapping.outer → key ≠ wrapping.inner →
    contest.world.refs key = start.refs key
  later : start.nextKey ≤ contest.world.nextKey
  teardowns : contest.teardowns
    = if 0 < direct + contest.returned ∧ direct + contest.returned ≤ contest.releases then 1 else 0

/-- The attempt at a place stands between those before it and those after it, and stays there. -/
theorem exists_attempt {attempts : List Attempt} {place : Nat} {attempt : Attempt}
    (found : attempts[place]? = some attempt) :
    ∃ front back, attempts = front ++ attempt :: back ∧
      ∀ changed, attempts.set place changed = front ++ changed :: back := by
  -- Each step past an attempt moves it to the front part.
  induction attempts generalizing place with
  | nil => cases found
  | cons head rest ih =>
    cases place with
    | zero =>
      cases found
      exact ⟨[], rest, rfl, fun _ => rfl⟩
    | succ place =>
      obtain ⟨front, back, same, changed⟩ := ih found
      exact ⟨head :: front, back, by rw [same]; rfl,
        fun other => by rw [List.set_cons_succ, changed]; rfl⟩

/-- Attempts have counts of their own when one of them has, the others have, and the one shares none
with the others. -/
theorem nodup_keys_middle {front back : List Attempt} {attempt : Attempt} :
    ((front ++ attempt :: back).flatMap (·.keys)).Nodup ↔
      attempt.keys.Nodup ∧ ((front ++ back).flatMap (·.keys)).Nodup ∧
        ∀ other ∈ front ++ back, ∀ key ∈ other.keys, key ∉ attempt.keys := by
  -- The order of the attempts makes no difference.
  rw [(List.perm_middle.flatMap_right _).nodup_iff, List.flatMap_cons, List.nodup_append]
  refine and_congr_right fun _ => and_congr_right fun _ => ⟨fun apart other member key inside => ?_,
    ?_⟩
  · exact fun both => apart key both key (List.mem_flatMap.mpr ⟨other, member, inside⟩) rfl
  · rintro apart key both _ listed rfl
    obtain ⟨other, member, inside⟩ := List.mem_flatMap.mp listed
    exact apart other member key inside both

/-- Among attempts of which one is pointed out, there are that one and the others. -/
theorem mem_middle {front back : List Attempt} {attempt other : Attempt} :
    other ∈ front ++ attempt :: back ↔ other = attempt ∨ other ∈ front ++ back := by
  simp only [List.mem_append, List.mem_cons, or_left_comm]

/-- When one attempt goes on, as many are of a kind as before, but for what it was and is now. -/
theorem countP_middle (kind : Attempt → Bool) (front back : List Attempt) (old new : Attempt) :
    (front ++ new :: back).countP kind + (kind old).toNat
      = (front ++ old :: back).countP kind + (kind new).toNat := by
  simp only [List.countP_append, List.countP_cons]
  cases kind old <;> cases kind new <;> simp only [Bool.toNat_false, Bool.toNat_true, if_true,
    Bool.false_eq_true, if_false] <;> omega

namespace Accounted

variable {start : World} {direct others : Nat} {contest : Contest}

/-- When one attempt goes on, the attempts that have returned a source are those that had, but for
what it was and is now. -/
theorem returned_replace {front back : List Attempt} {old : Attempt}
    (split : contest.attempts = front ++ old :: back) (new : Attempt) (world : World) :
    Contest.returned { contest with world, attempts := front ++ new :: back }
        + old.hasReturned.toNat
      = contest.returned + new.hasReturned.toNat := by
  rw [Contest.returned, Contest.returned, split]
  exact countP_middle _ front back old new

/-- When one attempt goes on, the attempts between the two bindings are those that were, but for
what it was and is now. -/
theorem carried_replace {front back : List Attempt} {old : Attempt}
    (split : contest.attempts = front ++ old :: back) (new : Attempt) (world : World) :
    Contest.carried { contest with world, attempts := front ++ new :: back } + old.carries.toNat
      = contest.carried + new.carries.toNat := by
  rw [Contest.carried, Contest.carried, split]
  exact countP_middle _ front back old new

/-- Nothing has been released yet, and no attempt was made. -/
theorem begin (held : start.refs wrapping.outer = .held direct)
    (given : start.refs wrapping.inner = .held others) :
    wrapping.Accounted start direct others { world := start } where
  outer := held
  inner := given
  shaped := by simp
  own := by simp
  distinct := List.nodup_nil
  fresh := by simp
  older _ _ _ _ := rfl
  later := Nat.le_refl _
  teardowns := by
    rw [if_neg]
    rintro ⟨some, none⟩
    exact Nat.not_lt.mpr none some

/-- The counts of an attempt are neither those of the bindings nor any that there were before. -/
theorem foreign (accounted : wrapping.Accounted start direct others contest)
    (placed : wrapping.Placed start) {attempt : Attempt} (member : attempt ∈ contest.attempts)
    {key : Nat} (inside : key ∈ attempt.keys) : key ≠ wrapping.outer ∧ key ≠ wrapping.inner := by
  have := (accounted.fresh attempt member key inside).1
  have := placed.outer
  have := placed.inner
  omega

/-- The counts of the two bindings have no number that is still to be given. -/
theorem older_bindings (accounted : wrapping.Accounted start direct others contest)
    (placed : wrapping.Placed start) :
    wrapping.outer < contest.world.nextKey ∧ wrapping.inner < contest.world.nextKey :=
  ⟨Nat.lt_of_lt_of_le placed.outer accounted.later,
    Nat.lt_of_lt_of_le placed.inner accounted.later⟩

/-- The counts stay accounted for when one attempt goes on: it takes new counts or keeps its own,
and the bindings are held as the new attempts say. -/
theorem replace (accounted : wrapping.Accounted start direct others contest)
    (placed : wrapping.Placed start) {front back : List Attempt} {old new : Attempt}
    (split : contest.attempts = front ++ old :: back) {next : Contest}
    (attempts : next.attempts = front ++ new :: back)
    (outer : next.world.refs wrapping.outer = .held (direct + next.returned - next.releases))
    (inner : next.world.refs wrapping.inner = .held (others + next.returned + next.carried
      - (next.lettings + next.insideReleases)))
    (shaped : wrapping.Shaped new)
    (own : ∀ key ∈ new.keys, next.world.refs key = .held 1)
    (single : new.keys.Nodup)
    (taken : ∀ key ∈ new.keys, key ∈ old.keys ∨
      contest.world.nextKey ≤ key ∧ key < next.world.nextKey)
    (rest : ∀ key < contest.world.nextKey, key ∉ old.keys → key ≠ wrapping.outer →
      key ≠ wrapping.inner → next.world.refs key = contest.world.refs key)
    (later : contest.world.nextKey ≤ next.world.nextKey)
    (teardowns : next.teardowns
      = if 0 < direct + next.returned ∧ direct + next.returned ≤ next.releases then 1 else 0) :
    wrapping.Accounted start direct others next := by
  have known : old ∈ contest.attempts := by simp [split]
  have before := accounted.later
  -- The attempts beside this one have counts of their own, which nobody touches.
  have distinct := accounted.distinct
  rw [split, nodup_keys_middle] at distinct
  obtain ⟨-, unmixed, apart⟩ := distinct
  have beside {other : Attempt} (member : other ∈ front ++ back) : other ∈ contest.attempts :=
    split ▸ mem_middle.mpr (.inr member)
  have cases {other : Attempt} (member : other ∈ next.attempts) :
      other = new ∨ other ∈ front ++ back := mem_middle.mp (attempts ▸ member)
  have unlike (other : Attempt) (member : other ∈ front ++ back) (key : Nat)
      (inside : key ∈ other.keys) : key ∉ new.keys := by
    intro both
    rcases taken key both with kept | ⟨new, -⟩
    · exact apart other member key inside kept
    · have := (accounted.fresh other (beside member) key inside).2
      omega
  refine ⟨outer, inner, fun other member => ?_, fun other member key inside => ?_, ?_,
    fun other member key inside => ?_, fun key old notOuter notInner => ?_,
    Nat.le_trans before later, teardowns⟩
  · rcases cases member with rfl | member
    · exact shaped
    · exact accounted.shaped other (beside member)
  · rcases cases member with rfl | member
    · exact own key inside
    · -- What changes is a binding's count or this attempt's own, and the other's is neither.
      have foreign := accounted.foreign placed (beside member) inside
      rw [rest key (accounted.fresh other (beside member) key inside).2
        (apart other member key inside) foreign.1 foreign.2]
      exact accounted.own other (beside member) key inside
  · rw [attempts, nodup_keys_middle]
    exact ⟨single, unmixed, unlike⟩
  · rcases cases member with rfl | member
    · rcases taken key inside with kept | ⟨new, known⟩
      · have := accounted.fresh old known key kept
        omega
      · exact ⟨by omega, known⟩
    · have := accounted.fresh other (beside member) key inside
      omega
  · -- The counts of the attempt were not there at the start.
    have foreign : key ∉ Attempt.keys _ := fun inside => by
      have := (accounted.fresh _ known key inside).1
      omega
    rw [rest key (by omega) foreign notOuter notInner]
    exact accounted.older key old notOuter notInner

/-- The teardowns are as many as before when as many sources were returned, or when the outer
binding is still held. -/
theorem teardowns_of (accounted : wrapping.Accounted start direct others contest) {returned : Nat}
    (same : returned = contest.returned ∨
      contest.returned < returned ∧ contest.releases < direct + contest.returned) :
    contest.teardowns
      = if 0 < direct + returned ∧ direct + returned ≤ contest.releases then 1 else 0 := by
  rw [accounted.teardowns]
  rcases same with rfl | ⟨more, held⟩
  · rfl
  · rw [if_neg (by omega), if_neg (by omega)]

/-- The counts stay accounted for when an attempt goes on without touching any. -/
theorem still (accounted : wrapping.Accounted start direct others contest)
    (placed : wrapping.Placed start) {front back : List Attempt} {old new : Attempt}
    (split : contest.attempts = front ++ old :: back) (keys : new.keys = old.keys)
    (returned : new.hasReturned = old.hasReturned) (carries : new.carries = old.carries)
    (shaped : wrapping.Shaped new) :
    wrapping.Accounted start direct others { contest with attempts := front ++ new :: back } := by
  have known : old ∈ contest.attempts := by simp [split]
  -- The attempt counts for as much as before.
  have sameReturned : Contest.returned { contest with attempts := front ++ new :: back }
      = contest.returned :=
    Nat.add_right_cancel (returned ▸ returned_replace split new contest.world)
  have sameCarried : Contest.carried { contest with attempts := front ++ new :: back }
      = contest.carried :=
    Nat.add_right_cancel (carries ▸ carried_replace split new contest.world)
  have single : old.keys.Nodup := by
    have distinct := accounted.distinct
    rw [split, nodup_keys_middle] at distinct
    exact distinct.1
  refine accounted.replace placed split rfl ?_ ?_ shaped (fun key inside => ?_) (keys ▸ single)
    (fun key inside => .inl (keys ▸ inside)) (fun _ _ _ _ _ => rfl) (Nat.le_refl _) ?_
  · rw [sameReturned]
    exact accounted.outer
  · rw [sameReturned, sameCarried]
    exact accounted.inner
  · exact accounted.own old known key (keys ▸ inside)
  · exact accounted.teardowns_of (.inl sameReturned)

/-- The binding inside gives a source while it is held, and else none. -/
theorem find (accounted : wrapping.Accounted start direct others contest)
    (placed : wrapping.Placed start) {front back : List Attempt}
    (split : contest.attempts = front ++ .waiting :: back) (server : Server) :
    let (attempt, world) := wrapping.go .waiting (.find server) contest.world
    wrapping.Accounted start direct others
      { contest with world, attempts := front ++ attempt :: back } := by
  obtain ⟨outerOld, innerOld⟩ := accounted.older_bindings placed
  have inner := accounted.inner
  simp only [go]
  cases number : others + contest.returned + contest.carried
      - (contest.lettings + contest.insideReleases) with
  | zero =>
    -- The binding inside is gone, and the attempt has failed with nothing in hand.
    rw [number] at inner
    rw [finishAcquire_wrapped_gone server inner]
    exact accounted.still placed split rfl rfl rfl trivial
  | succ left =>
    rw [number] at inner
    rw [finishAcquire_wrapped server inner]
    simp only [Attempt.settle]
    -- The attempt has come between the two bindings.
    have returned (world : World) (source : Source) : Contest.returned
        { contest with world, attempts := front ++ .lent source :: back } = contest.returned :=
      returned_replace split _ world
    have carried (world : World) (source : Source) : Contest.carried
        { contest with world, attempts := front ++ .lent source :: back }
          = contest.carried + 1 :=
      carried_replace split _ world
    refine accounted.replace placed split rfl ?_ ?_ ⟨_, server, rfl⟩ ?_ ?_ ?_ ?_ ?_ ?_
    · -- Only the binding inside was touched, and a count that is new.
      rw [returned]
      simp only [lendInside, World.refs_setRefs, World.refs_spendKey, Nat.ne_of_lt outerOld,
        Ne.symm placed.apart, if_false]
      exact accounted.outer
    · rw [returned, carried]
      simp only [lendInside, World.refs_setRefs, World.refs_spendKey, Nat.ne_of_lt innerOld,
        if_false, if_true]
      congr 1
      omega
    · simp [Attempt.keys, Source.keys, lendInside]
    · simp [Attempt.keys, Source.keys]
    · simp [Attempt.keys, Source.keys, lendInside]
    · intro key old _ _ notInner
      simp [lendInside, Nat.ne_of_lt old, notInner]
    · simp [lendInside]
    · exact accounted.teardowns_of (.inl (returned _ _))

/-- The outer binding is held once more by the source around the one inside, or it is gone and
nothing is held. -/
theorem claim (accounted : wrapping.Accounted start direct others contest)
    (placed : wrapping.Placed start) {front back : List Attempt} {inside : Source}
    (split : contest.attempts = front ++ .lent inside :: back) :
    let (attempt, world) := wrapping.go (.lent inside) .claim contest.world
    wrapping.Accounted start direct others
      { contest with world, attempts := front ++ attempt :: back } := by
  have known : Attempt.lent inside ∈ contest.attempts := by simp [split]
  obtain ⟨within, server, rfl⟩ := accounted.shaped _ known
  obtain ⟨outerOld, innerOld⟩ := accounted.older_bindings placed
  have outer := accounted.outer
  simp only [go]
  cases number : direct + contest.returned - contest.releases with
  | zero =>
    -- The outer binding is gone: the source inside stays in hand until it goes back.
    rw [number] at outer
    rw [claim_gone outer]
    exact accounted.still placed split rfl rfl rfl ⟨within, server, rfl⟩
  | succ left =>
    rw [number] at outer
    rw [claim_held outer]
    simp only [Attempt.wrap]
    have listed : within ∈ (Attempt.lent (.server within wrapping.wrapped server)).keys := by
      simp [Attempt.keys, Source.keys]
    have withinOld := (accounted.fresh _ known within listed).2
    have one := accounted.own _ known within listed
    have foreign := accounted.foreign placed known listed
    -- The attempt counts among those that have returned, and no longer as one between.
    have returned (world : World) (source : Source) : Contest.returned
        { contest with world, attempts := front ++ .returned source :: back }
          = contest.returned + 1 :=
      returned_replace split _ world
    have carried (world : World) (source : Source) : Contest.carried
        { contest with world, attempts := front ++ .returned source :: back } + 1
          = contest.carried :=
      carried_replace split _ world
    refine accounted.replace placed split rfl ?_ ?_ ⟨_, within, server, rfl⟩ ?_ ?_ ?_ ?_ ?_ ?_
    · rw [returned]
      simp only [World.refs_setRefs, World.refs_spendKey, Nat.ne_of_lt outerOld, if_false, if_true]
      congr 1
      omega
    · -- One more has returned and one less is between: the binding inside is held as before.
      rw [returned]
      simp only [World.refs_setRefs, World.refs_spendKey, Nat.ne_of_lt innerOld, placed.apart,
        if_false, accounted.inner, ← carried (contest.world)
          (.session contest.world.nextKey wrapping.binding
            (.server within wrapping.wrapped server))]
      congr 1
      simp only [Contest.carried]
      omega
    · simp [Attempt.keys, Source.keys, Nat.ne_of_lt withinOld, foreign.1, one]
    · simp [Attempt.keys, Source.keys, Ne.symm (Nat.ne_of_lt withinOld)]
    · -- The count around the source is new, and the one inside was the attempt's already.
      intro key listed
      simp only [Attempt.keys, Source.keys, List.mem_cons, List.not_mem_nil, or_false] at listed
      rcases listed with rfl | rfl
      · exact .inr ⟨Nat.le_refl _, Nat.lt_succ_self _⟩
      · exact .inl (by simp [Attempt.keys, Source.keys])
    · intro key old _ notOuter _
      simp [Nat.ne_of_lt old, notOuter]
    · simp
    · exact accounted.teardowns_of (.inr ⟨by rw [returned]; omega, by omega⟩)

/-- The source that the binding inside has given goes back, and its count is nobody's. -/
theorem giveBack (accounted : wrapping.Accounted start direct others contest)
    (placed : wrapping.Placed start) {front back : List Attempt} {halt : Halt} {inside : Source}
    (split : contest.attempts = front ++ .refused halt inside :: back) :
    let (attempt, world) := wrapping.go (.refused halt inside) .giveBack contest.world
    wrapping.Accounted start direct others
      { contest with world, attempts := front ++ attempt :: back } := by
  have known : Attempt.refused halt inside ∈ contest.attempts := by simp [split]
  obtain ⟨within, server, rfl⟩ := accounted.shaped _ known
  have listed : within ∈ (Attempt.refused halt (.server within wrapping.wrapped server)).keys := by
    simp [Attempt.keys, Source.keys]
  have foreign := accounted.foreign placed known listed
  have one := accounted.own _ known within listed
  obtain ⟨refs, nextKey⟩ :=
    giveBack_apply server foreign.2 one accounted.inner
  simp only [go]
  have returned (world : World) : Contest.returned
      { contest with world, attempts := front ++ .failed halt :: back } = contest.returned :=
    returned_replace split _ world
  have carried (world : World) : Contest.carried
      { contest with world, attempts := front ++ .failed halt :: back } + 1 = contest.carried :=
    carried_replace split _ world
  refine accounted.replace placed split rfl ?_ ?_ trivial ?_ List.nodup_nil ?_ ?_ ?_ ?_
  · rw [refs, if_neg (Ne.symm foreign.1), if_neg (Ne.symm placed.apart), returned]
    exact accounted.outer
  · -- A reference that somebody else has given up already is not given up again.
    rw [refs, if_neg (Ne.symm foreign.2), if_pos rfl, returned, ← carried contest.world]
    congr 1
    simp only [Contest.carried]
    omega
  · simp [Attempt.keys]
  · simp [Attempt.keys]
  · intro key _ apart _ notInner
    rw [refs, if_neg (fun same : key = within => apart (same ▸ listed)), if_neg notInner]
  · exact Nat.le_of_eq nextKey.symm
  · exact accounted.teardowns_of (.inl (returned _))

/-- The counts stay accounted for when an attempt looks at a binding. -/
theorem looked (accounted : wrapping.Accounted start direct others contest)
    (placed : wrapping.Placed start) {front back : List Attempt} {old new : Attempt}
    (split : contest.attempts = front ++ old :: back) {look : Act Unit}
    (quiet : Work.Keeps id look) (before : old = .made ∨ old = .begun)
    (onward : new = .begun ∨ new = .waiting) :
    let (attempt, world) := Attempt.settle (fun _ => new) (look contest.world)
    wrapping.Accounted start direct others
      { contest with world, attempts := front ++ attempt :: back } := by
  -- Neither those who have looked nor those who have failed hold anything.
  rcases looked : look contest.world with ⟨halt | _, world⟩ <;>
    obtain rfl := Work.Keeps.same quiet looked <;>
    rcases before with rfl | rfl <;> rcases onward with rfl | rfl <;>
    exact accounted.still placed split rfl rfl rfl trivial

/-- The counts stay accounted for whatever an attempt does. -/
theorem go (accounted : wrapping.Accounted start direct others contest)
    (placed : wrapping.Placed start) {front back : List Attempt} {attempt : Attempt}
    (split : contest.attempts = front ++ attempt :: back) (leg : Leg) :
    let (after, world) := wrapping.go attempt leg contest.world
    wrapping.Accounted start direct others
      { contest with world, attempts := front ++ after :: back } := by
  -- One case for each step in its turn, and the last one for all that are out of it.
  obtain ⟨world, here⟩ : ∃ world, contest.world = world := ⟨_, rfl⟩
  rw [here]
  fun_cases Wrapping.go wrapping attempt leg world <;> subst here
  case case1 => exact accounted.looked placed split (Act.keeps_ensureLive _ _) (.inl rfl) (.inl rfl)
  case case2 =>
    exact accounted.looked placed split (Binding.keeps_beginAcquire _) (.inr rfl) (.inr rfl)
  case case3 server => exact accounted.find placed split server
  case case4 => exact accounted.still placed split rfl rfl rfl trivial
  case case5 => exact accounted.still placed split rfl rfl rfl trivial
  case case6 => exact accounted.claim placed split
  case case7 => exact accounted.giveBack placed split
  case case8 =>
    dsimp only
    rw [← split]
    exact accounted

/-- One more attempt, which has nothing yet. -/
theorem make (accounted : wrapping.Accounted start direct others contest) :
    wrapping.Accounted start direct others
      { contest with attempts := contest.attempts ++ [.made] } := by
  have returned : Contest.returned { contest with attempts := contest.attempts ++ [.made] }
      = contest.returned := by
    simp [Contest.returned, Attempt.hasReturned]
  have carried : Contest.carried { contest with attempts := contest.attempts ++ [.made] }
      = contest.carried := by
    simp [Contest.carried, Attempt.carries]
  -- The new attempt has no counts, so nothing is to be said of it.
  have cases {attempt : Attempt} (member : attempt ∈ contest.attempts ++ [.made]) :
      attempt ∈ contest.attempts ∨ attempt = .made := by
    simpa using member
  refine ⟨?_, ?_, fun attempt member => ?_, fun attempt member key inside => ?_, ?_,
    fun attempt member key inside => ?_, accounted.older, accounted.later, ?_⟩
  · rw [returned]
    exact accounted.outer
  · rw [returned, carried]
    exact accounted.inner
  · rcases cases member with known | rfl
    · exact accounted.shaped attempt known
    · trivial
  · rcases cases member with known | rfl
    · exact accounted.own attempt known key inside
    · cases inside
  · simpa [Attempt.keys] using accounted.distinct
  · rcases cases member with known | rfl
    · exact accounted.fresh attempt known key inside
    · cases inside
  · exact accounted.teardowns_of (.inl returned)

/-- The counts stay accounted for when references to the bindings are given up, and when nothing
happens to the counts. -/
theorem beside (accounted : wrapping.Accounted start direct others contest)
    (placed : wrapping.Placed start) {next : Contest} (attempts : next.attempts = contest.attempts)
    (outer : next.world.refs wrapping.outer = .held (direct + contest.returned - next.releases))
    (inner : next.world.refs wrapping.inner = .held (others + contest.returned + contest.carried
      - (next.lettings + next.insideReleases)))
    (rest : ∀ key, key ≠ wrapping.outer → key ≠ wrapping.inner →
      next.world.refs key = contest.world.refs key)
    (later : contest.world.nextKey ≤ next.world.nextKey)
    (teardowns : next.teardowns = if 0 < direct + contest.returned ∧
      direct + contest.returned ≤ next.releases then 1 else 0) :
    wrapping.Accounted start direct others next := by
  -- The attempts are the same, and so are all counts that are theirs.
  have returned : next.returned = contest.returned := by rw [Contest.returned, attempts]; rfl
  have carried : next.carried = contest.carried := by rw [Contest.carried, attempts]; rfl
  refine ⟨returned ▸ outer, by rw [returned, carried]; exact inner, ?_, ?_, ?_, ?_,
    fun key old notOuter notInner => ?_, Nat.le_trans accounted.later later, returned ▸ teardowns⟩
  all_goals try rw [attempts]
  · exact accounted.shaped
  · intro attempt member key inside
    have foreign := accounted.foreign placed member inside
    rw [rest key foreign.1 foreign.2]
    exact accounted.own attempt member key inside
  · exact accounted.distinct
  · intro attempt member key inside
    have known := accounted.fresh attempt member key inside
    exact ⟨known.1, Nat.lt_of_lt_of_le known.2 later⟩
  · rw [rest key notOuter notInner]
    exact accounted.older key old notOuter notInner

/-- Nothing happens to the counts. -/
theorem quiet (accounted : wrapping.Accounted start direct others contest)
    (placed : wrapping.Placed start) {world : World} (closings : Nat)
    (refs : ∀ key, world.refs key = contest.world.refs key)
    (later : contest.world.nextKey ≤ world.nextKey) :
    wrapping.Accounted start direct others { contest with world, closings } :=
  accounted.beside placed rfl ((refs _).trans accounted.outer) ((refs _).trans accounted.inner)
    (fun key _ _ => refs key) later accounted.teardowns

/-- A reference to the outer binding is given up, unless there is none; whoever gives up the last
one, and nobody else, is told to run the teardown. -/
theorem release (accounted : wrapping.Accounted start direct others contest)
    (placed : wrapping.Placed start) :
    wrapping.Accounted start direct others (wrapping.stride contest .release) := by
  have outer := accounted.outer
  simp only [stride]
  cases number : direct + contest.returned - contest.releases with
  | zero =>
    -- A release that is refused is counted, but takes nothing away.
    rw [number] at outer
    rw [Act.release_gone outer]
    refine accounted.beside placed rfl ?_ accounted.inner (fun _ _ _ => rfl) (Nat.le_refl _) ?_
    · rw [outer]
      congr 1
      dsimp only
      omega
    · -- The teardown was claimed by whoever gave up the last reference.
      dsimp only
      rw [accounted.teardowns]
      split <;> split <;> omega
  | succ left =>
    rw [number] at outer
    rw [Act.release_held outer]
    refine accounted.beside placed rfl ?_ ?_ (fun key notOuter _ => ?_) (Nat.le_refl _) ?_
    · simp only [World.refs_setRefs, if_true]
      congr 1
      omega
    · simp only [World.refs_setRefs, placed.apart, if_false]
      exact accounted.inner
    · simp [notOuter]
    · -- The teardown is claimed now exactly when this was the last reference.
      dsimp only
      rw [accounted.teardowns, if_neg (by omega)]
      by_cases last : left = 0
      · subst last
        rw [if_pos (by omega)]
        rfl
      · rw [if_neg (by omega)]
        simp [last]

/-- A reference to the binding inside is given up, unless there is none. -/
theorem releaseInside (accounted : wrapping.Accounted start direct others contest)
    (placed : wrapping.Placed start) {lettings insideReleases : Nat}
    (more : lettings + insideReleases = contest.lettings + contest.insideReleases + 1) :
    wrapping.Accounted start direct others
      { contest with
        world := (wrapping.wrapped.release contest.world).2
        lettings
        insideReleases } := by
  -- One count goes down by one, and the books say the same of it.
  obtain ⟨refs, nextKey⟩ := release_wrapped_apply accounted.inner
  refine accounted.beside placed rfl ?_ ?_ (fun key _ notInner => ?_) (Nat.le_of_eq nextKey.symm)
    accounted.teardowns
  · rw [refs, if_neg (Ne.symm placed.apart)]
    exact accounted.outer
  · rw [refs, if_pos rfl]
    congr 1
    dsimp only
    omega
  · rw [refs, if_neg notInner]

/-- The counts stay accounted for whatever happens. -/
theorem stride (accounted : wrapping.Accounted start direct others contest)
    (placed : wrapping.Placed start) (step : Stride) :
    wrapping.Accounted start direct others (wrapping.stride contest step) := by
  cases step with
  | make => exact accounted.make
  | go place leg =>
    simp only [Wrapping.stride]
    cases found : contest.attempts[place]? with
    | none => exact accounted
    | some attempt =>
      -- Only the attempt at the place goes on.
      obtain ⟨front, back, split, changed⟩ := exists_attempt found
      simp only [changed]
      exact accounted.go placed split leg
  | release => exact accounted.release placed
  | close =>
    -- Closing the session is none of the counts.
    have closed : (wrapping.closing contest.world).2.counted = contest.world.counted :=
      counted_closing wrapping contest.world
    simp only [Wrapping.stride]
    split
    · exact accounted.quiet placed _ (World.refs_of_counted closed)
        (Nat.le_of_eq (congrArg Prod.snd closed).symm)
    · exact accounted
  | letGo =>
    simp only [Wrapping.stride]
    split
    · exact accounted.releaseInside placed (by omega)
    · exact accounted
  | releaseInside => exact accounted.releaseInside placed (by omega)
  | elsewhere other =>
    exact accounted.quiet placed _ (fun _ => rfl) (Nat.le_max_left _ _)

/-- The counts stay accounted for however long it goes on. -/
theorem strides (accounted : wrapping.Accounted start direct others contest)
    (placed : wrapping.Placed start) (steps : List Stride) :
    wrapping.Accounted start direct others (wrapping.strides contest steps) := by
  -- The counts are accounted for after each step.
  induction steps generalizing contest with
  | nil => exact accounted
  | cons step rest ih => exact ih (accounted.stride placed step)

/-- No attempt ends a session. -/
theorem sessional_go (accounted : wrapping.Accounted start direct others contest)
    {attempt : Attempt} (member : attempt ∈ contest.attempts) (leg : Leg) :
    sessional (wrapping.go attempt leg contest.world).2 = sessional contest.world := by
  -- Sources are looked for, claimed and given back, and none of this has to do with sessions.
  have shaped := accounted.shaped attempt member
  generalize contest.world = world
  fun_cases Wrapping.go wrapping attempt leg world
  case case1 =>
    rw [Attempt.settle_world]
    exact Act.keeps_ensureLive _ _ world
  case case2 =>
    rw [Attempt.settle_world]
    exact Binding.keeps_beginAcquire _ world
  case case3 server =>
    rw [Attempt.settle_world]
    exact Work.Keeps.bind (sessional_retain _ _) (fun _ => .bind (fun _ => rfl) fun _ => .pure _)
      world
  case case6 =>
    rw [Attempt.wrap_world]
    exact Work.Keeps.bind (sessional_retain _ _) (fun _ => .bind (fun _ => rfl) fun _ => .pure _)
      world
  case case7 =>
    obtain ⟨within, server, rfl⟩ := shaped
    exact sessional_giveBack wrapping within server world
  all_goals rfl

end Accounted

variable {contest : Contest}

/-- No attempt comes to a source once the outer binding is gone. -/
theorem hasReturned_go (gone : world.refs wrapping.outer = .held 0) (attempt : Attempt) (leg : Leg)
    (returned : (wrapping.go attempt leg world).1.hasReturned) : attempt.hasReturned := by
  -- Only the claim of the outer binding comes to a source, and that claim fails.
  revert returned
  fun_cases Wrapping.go wrapping attempt leg world
  case case1 =>
    rcases Act.ensureLive wrapping.outer .sessionBinding world with ⟨_ | _, _⟩ <;> exact id
  case case2 => rcases wrapping.wrapped.beginAcquire world with ⟨_ | _, _⟩ <;> exact id
  case case3 server =>
    rcases wrapping.wrapped.finishAcquire server world with ⟨_ | _, _⟩ <;> exact id
  case case6 =>
    rw [claim_gone gone]
    exact id
  all_goals exact id

/-- No attempt comes to a source of the binding inside once that one is gone. -/
theorem carries_go (gone : world.refs wrapping.inner = .held 0) (attempt : Attempt) (leg : Leg)
    (counted : (wrapping.go attempt leg world).1.hasReturned ||
      (wrapping.go attempt leg world).1.carries) : attempt.hasReturned || attempt.carries := by
  -- Only what the binding inside gives makes an attempt count that did not before.
  revert counted
  fun_cases Wrapping.go wrapping attempt leg world
  case case1 =>
    rcases Act.ensureLive wrapping.outer .sessionBinding world with ⟨_ | _, _⟩ <;> exact id
  case case2 => rcases wrapping.wrapped.beginAcquire world with ⟨_ | _, _⟩ <;> exact id
  case case3 server =>
    rw [finishAcquire_wrapped_gone server gone]
    exact id
  case case6 => exact fun _ => rfl
  case case7 => exact fun _ => rfl
  all_goals exact id

/-- Attempts that are of some kind do not get more when no step makes one of this kind. -/
theorem countP_stride (kind : Attempt → Bool) (fresh : kind .made = false)
    (goes : ∀ attempt leg, kind (wrapping.go attempt leg contest.world).1 → kind attempt)
    (step : Stride) :
    (wrapping.stride contest step).attempts.countP kind ≤ contest.attempts.countP kind := by
  cases step with
  | make => simp [stride, fresh]
  | go place leg =>
    simp only [stride]
    cases found : contest.attempts[place]? with
    | none => exact Nat.le_refl _
    | some attempt =>
      -- Of all attempts only one has gone on, and it is of the kind only if it was before.
      obtain ⟨front, back, split, changed⟩ := exists_attempt found
      simp only [changed]
      rw [split]
      have counted := countP_middle kind front back attempt
        (wrapping.go attempt leg contest.world).1
      have kept : (kind (wrapping.go attempt leg contest.world).1).toNat
          ≤ (kind attempt).toNat := by
        cases made : kind (wrapping.go attempt leg contest.world).1 with
        | false => exact Nat.zero_le _
        | true => exact Nat.le_of_eq (congrArg Bool.toNat (goes attempt leg made).symm)
      omega
  | release | releaseInside | elsewhere => exact Nat.le_refl _
  | close | letGo =>
    simp only [stride]
    split <;> exact Nat.le_refl _

/-- Nothing that was given up, or that a teardown has done, is undone. -/
theorem releases_stride (wrapping : Wrapping) (contest : Contest) (step : Stride) :
    contest.releases ≤ (wrapping.stride contest step).releases ∧
    contest.lettings ≤ (wrapping.stride contest step).lettings ∧
    contest.insideReleases ≤ (wrapping.stride contest step).insideReleases := by
  -- Each of the three counts is only ever added to.
  cases step with
  | make | releaseInside | elsewhere => simp [stride]
  | release => exact ⟨Nat.le_succ _, Nat.le_refl _, Nat.le_refl _⟩
  | go place leg =>
    simp only [stride]
    split <;> simp
  | close | letGo =>
    simp only [stride]
    split <;> simp

/-- A teardown deals with the session, and then gives up the binding inside, at most once for every
time that it was claimed. -/
theorem ordered_stride (step : Stride)
    (ordered : contest.lettings ≤ contest.closings ∧ contest.closings ≤ contest.teardowns) :
    (wrapping.stride contest step).lettings ≤ (wrapping.stride contest step).closings ∧
    (wrapping.stride contest step).closings ≤ (wrapping.stride contest step).teardowns := by
  -- Each part of a teardown is done only while it is behind the part before it.
  obtain ⟨first, second⟩ := ordered
  cases step with
  | make | releaseInside | elsewhere => exact ⟨first, second⟩
  | go place leg =>
    simp only [stride]
    split <;> exact ⟨first, second⟩
  | release => exact ⟨first, Nat.le_add_right_of_le second⟩
  | close =>
    simp only [stride]
    split
    · exact ⟨Nat.le_succ_of_le first, by assumption⟩
    · exact ⟨first, second⟩
  | letGo =>
    simp only [stride]
    split
    · exact ⟨by assumption, second⟩
    · exact ⟨first, second⟩

/-- However long it goes on, the parts of a teardown follow one another. -/
theorem ordered_strides (wrapping : Wrapping) (contest : Contest) (steps : List Stride)
    (ordered : contest.lettings ≤ contest.closings ∧ contest.closings ≤ contest.teardowns) :
    (wrapping.strides contest steps).lettings ≤ (wrapping.strides contest steps).closings ∧
    (wrapping.strides contest steps).closings ≤ (wrapping.strides contest steps).teardowns := by
  induction steps generalizing contest with
  | nil => exact ordered
  | cons step rest ih => exact ih _ (ordered_stride step ordered)

/-- A binding that is gone stays so. -/
theorem Accounted.gone_stride {start : World} {direct others : Nat}
    (accounted : wrapping.Accounted start direct others contest)
    (placed : wrapping.Placed start) (step : Stride) :
    (contest.world.refs wrapping.outer = .held 0 →
      (wrapping.stride contest step).world.refs wrapping.outer = .held 0) ∧
    (contest.world.refs wrapping.inner = .held 0 →
      (wrapping.stride contest step).world.refs wrapping.inner = .held 0) := by
  have next := accounted.stride placed step
  obtain ⟨releases, lettings, insideReleases⟩ := releases_stride wrapping contest step
  constructor <;> intro gone
  · -- The releases are as many as ever held the binding, and no source comes to hold it.
    have returned : (wrapping.stride contest step).returned ≤ contest.returned :=
      countP_stride _ rfl (hasReturned_go gone) step
    have none : direct + contest.returned - contest.releases = 0 :=
      congrArg References.count (accounted.outer.symm.trans gone)
    rw [next.outer]
    congr 1
    omega
  · -- The binding inside is held by those that have returned and by those between, together.
    have counted (contest : Contest) : contest.returned + contest.carried
        = contest.attempts.countP fun attempt => attempt.hasReturned || attempt.carries := by
      simp only [Contest.returned, Contest.carried]
      induction contest.attempts with
      | nil => rfl
      | cons attempt rest ih =>
        simp only [List.countP_cons, ← ih]
        cases attempt <;> simp [Attempt.hasReturned, Attempt.carries] <;> omega
    have fewer := countP_stride (fun attempt => attempt.hasReturned || attempt.carries) rfl
      (carries_go gone) step
    rw [← counted, ← counted] at fewer
    have none : others + contest.returned + contest.carried
        - (contest.lettings + contest.insideReleases) = 0 :=
      congrArg References.count (accounted.inner.symm.trans gone)
    rw [next.inner]
    congr 1
    omega

/-- What an attempt does is no part of a teardown. -/
theorem teardowns_stride (wrapping : Wrapping) (contest : Contest) (step : Stride)
    (tries : step.IsAttempt) :
    (wrapping.stride contest step).teardowns = contest.teardowns ∧
    (wrapping.stride contest step).closings = contest.closings ∧
    (wrapping.stride contest step).lettings = contest.lettings := by
  cases step with
  | make => exact ⟨rfl, rfl, rfl⟩
  | go place leg =>
    simp only [stride]
    split <;> exact ⟨rfl, rfl, rfl⟩
  | release | close | letGo | releaseInside | elsewhere => cases tries

/-- What an attempt does is no part of a teardown, so the sessions stay as they are. -/
theorem Accounted.sessional_stride {start : World} {direct others : Nat}
    (accounted : wrapping.Accounted start direct others contest) (step : Stride)
    (tries : step.IsAttempt) :
    sessional (wrapping.stride contest step).world = sessional contest.world := by
  -- An attempt takes and gives back references; what is closed is closed by a teardown.
  cases step with
  | make => rfl
  | go place leg =>
    simp only [Wrapping.stride]
    cases found : contest.attempts[place]? with
    | none => rfl
    | some attempt => exact accounted.sessional_go (List.mem_of_getElem? found) leg
  | release | close | letGo | releaseInside | elsewhere => cases tries

variable {direct others : Nat}

/-- Where a teardown was claimed and is not over, a release is refused, as it is to everybody by
then, and nothing changes. -/
theorem Accounted.release_late {start : World}
    (accounted : wrapping.Accounted start direct others contest)
    (claimed : 0 < contest.teardowns) :
    (wrapping.stride contest .release).world = (wrapping.binding.release contest.world).2 ∧
      (wrapping.binding.release contest.world).2 = contest.world := by
  have gone : contest.world.refs wrapping.outer = .held 0 := by
    rw [accounted.teardowns] at claimed
    rw [accounted.outer]
    split at claimed
    · rename_i none
      rw [Nat.sub_eq_zero_of_le none.2]
    · cases claimed
  simp only [Wrapping.stride, binding, Binding.release, Act.releaseThen, Work.bind_apply,
    Act.release_gone gone, and_self]

/-- Attempts and releases may come in any order, each cut where anything can happen between. The
outer binding is held by those that held it before and once by every attempt that has come to a
source, and the binding inside likewise, but for what was given up; the counts of a source are new
and held once; and every other count is what it was, so an attempt that has failed has no part in
any. The teardown is claimed once, when nobody is left who held the outer binding. No step takes
either binding from none to some, and no step of an attempt is part of a teardown. The steps are
those of the bindings: uncut, an acquisition, its end once there is a server, and a release come to
what their steps come to in a row. -/
theorem counts_of_attempts (held : world.refs wrapping.outer = .held direct)
    (given : world.refs wrapping.inner = .held others) (placed : wrapping.Placed world)
    (steps : List Stride) :
    let after := wrapping.strides { world } steps
    after.world.refs wrapping.outer = .held (direct + after.returned - after.releases) ∧
    after.world.refs wrapping.inner = .held (others + after.returned + after.carried
      - (after.lettings + after.insideReleases)) ∧
    (∀ key < world.nextKey, key ≠ wrapping.outer → key ≠ wrapping.inner →
      after.world.refs key = world.refs key) ∧
    (∀ attempt ∈ after.attempts, ∀ key ∈ attempt.keys,
      world.nextKey ≤ key ∧ after.world.refs key = .held 1) ∧
    (after.attempts.flatMap (·.keys)).Nodup ∧
    after.lettings ≤ after.closings ∧ after.closings ≤ after.teardowns ∧
    after.teardowns = (if 0 < direct + after.returned ∧
      after.world.refs wrapping.outer = .held 0 then 1 else 0) ∧
    (∀ step, let next := wrapping.stride after step
      (after.world.refs wrapping.outer = .held 0 → next.world.refs wrapping.outer = .held 0) ∧
      (after.world.refs wrapping.inner = .held 0 → next.world.refs wrapping.inner = .held 0) ∧
      (step.IsAttempt → next.teardowns = after.teardowns ∧ next.closings = after.closings ∧
        next.lettings = after.lettings ∧ sessional next.world = sessional after.world)) ∧
    (∀ intent, let acquired := wrapping.binding.acquire intent after.world
      wrapping.strides after (wrapping.acquiring after.world after.attempts.length intent)
        = after.add (.ofResult acquired.1, acquired.2)) ∧
    (∀ place server, after.attempts[place]? = some .waiting →
      let acquired := wrapping.binding.finishAcquire server after.world
      wrapping.strides after ((Leg.ending server).map (.go place))
        = after.put place (.ofResult acquired.1, acquired.2)) ∧
    (after.lettings = after.teardowns →
      ∃ torn, wrapping.strides after [.release, .close, .letGo] = { after with
        world := (wrapping.binding.release after.world).2
        releases := after.releases + 1
        teardowns := torn
        closings := torn
        lettings := torn }) ∧
    (after.lettings < after.teardowns →
      (wrapping.stride after .release).world = (wrapping.binding.release after.world).2 ∧
        (wrapping.binding.release after.world).2 = after.world) := by
  intro after
  have accounted : wrapping.Accounted world direct others after :=
    (Accounted.begin held given).strides placed steps
  obtain ⟨lettings, closings⟩ := ordered_strides wrapping { world } steps
    ⟨Nat.le_refl _, Nat.le_refl _⟩
  refine ⟨accounted.outer, accounted.inner, accounted.older, fun attempt member key inside =>
    ⟨(accounted.fresh attempt member key inside).1, accounted.own attempt member key inside⟩,
    accounted.distinct, lettings, closings, ?_, fun step => ?_, acquire_strides after,
    fun place server waits => finish_strides waits server, fun settled => ?_,
    fun late => accounted.release_late (Nat.zero_lt_of_lt late)⟩
  · -- That nobody is left is said of the numbers there, and of the references here.
    rw [accounted.teardowns]
    congr 2
    rw [accounted.outer]
    refine propext ⟨fun few => by rw [Nat.sub_eq_zero_of_le few], fun gone => ?_⟩
    exact Nat.le_of_sub_eq_zero (congrArg References.count gone)
  · obtain ⟨outer, inner⟩ := accounted.gone_stride placed step
    refine ⟨outer, inner, fun tries => ?_⟩
    obtain ⟨claimed, closed, lets⟩ := wrapping.teardowns_stride after step tries
    exact ⟨claimed, closed, lets, accounted.sessional_stride step tries⟩
  · -- What lies between the two is no more than the one and no less than the other.
    have both := Nat.le_antisymm lettings (Nat.le_trans closings (Nat.le_of_eq settled.symm))
    exact release_strides both (both.symm.trans settled)

/-- The last reference to the outer binding goes while an attempt waits, and the teardown is over
before a server is found. Then the end of the acquisition, and with it the attempt, comes to
nothing, and leaves both bindings held as often as before. -/
theorem counts_of_attempts_released :
    let wrapping : Wrapping := ⟨1, 0, 0, .primary, 0, true⟩
    let world : World :=
      { (({} : World).setRefs 0 (.held 2)).setRefs 1 (.held 1) with nextKey := 2 }
    let steps : List Stride := [.make, .go 0 .begin, .go 0 .look, .release, .close, .letGo]
    let before := wrapping.strides { world } steps
    let acquired := wrapping.binding.finishAcquire default before.world
    world.refs 1 = .held 1 ∧ world.refs 0 = .held 2 ∧ wrapping.Placed world ∧
      before.world.refs 1 = .held 0 ∧ before.world.refs 0 = .held 1 ∧ before.teardowns = 1 ∧
      wrapping.strides before ((Leg.ending default).map (.go 0))
        = before.put 0 (.ofResult acquired.1, acquired.2) ∧
      acquired.1.isOk = false ∧ acquired.2.refs 1 = .held 0 ∧ acquired.2.refs 0 = .held 1 := by
  intro wrapping world steps
  have placed : wrapping.Placed world := ⟨by decide, by decide, by decide⟩
  have held : world.refs wrapping.outer = .held 1 := rfl
  have given : world.refs wrapping.inner = .held 2 := rfl
  have counted := counts_of_attempts held given placed steps
  have waits : (wrapping.strides { world } steps).attempts[0]? = some .waiting :=
    Contest.getElem?_waiting (by decide +kernel)
  -- The attempt has come to no source, and one reference to each binding was given up.
  have said : let before := wrapping.strides { world } steps
      let acquired := wrapping.binding.finishAcquire default before.world
      before.returned = 0 ∧ before.carried = 0 ∧ before.releases = 1 ∧ before.lettings = 1 ∧
        before.insideReleases = 0 ∧ before.teardowns = 1 ∧ acquired.1.isOk = false ∧
        acquired.2.refs 1 = .held 0 ∧ acquired.2.refs 0 = .held 1 := by
    decide +kernel
  generalize wrapping.strides { world } steps = before at *
  obtain ⟨returned, carried, releases, lettings, insideReleases, teardowns, failed⟩ := said
  obtain ⟨outer, inner, -, -, -, -, -, -, -, -, finish, -⟩ := counted
  rw [returned, releases] at outer
  rw [returned, carried, lettings, insideReleases] at inner
  exact ⟨held, given, placed, outer, inner, teardowns, finish 0 default waits, failed⟩

end Wrapping
end DocWire
