import DocWire.Proofs.Binding.Wrapping

/-! Sources of any binding, however many bindings are inside one another: what an acquisition adds
to the counts, the last release of the source takes away. -/

namespace DocWire

/-- References with some more held. -/
def References.plus (refs : References) (more : Nat) : References :=
  { refs with count := refs.count + more }

/-- References with some fewer held. -/
def References.minus (refs : References) (fewer : Nat) : References :=
  { refs with count := refs.count - fewer }

namespace References

@[simp] theorem plus_zero (refs : References) : refs.plus 0 = refs := rfl

@[simp] theorem minus_zero (refs : References) : refs.minus 0 = refs := rfl

@[simp] theorem plus_plus (refs : References) (first second : Nat) :
    (refs.plus first).plus second = refs.plus (first + second) := by
  simp [plus, Nat.add_assoc]

@[simp] theorem minus_minus (refs : References) (first second : Nat) :
    (refs.minus first).minus second = refs.minus (first + second) := by
  simp [minus, Nat.sub_sub]

@[simp] theorem minus_plus (refs : References) (number : Nat) :
    (refs.plus number).minus number = refs := by
  simp [plus, minus]

/-- While anybody holds a reference, one more can be had. -/
theorem retain_live {refs : References} (live : refs.count ≠ 0) (what : Counted) :
    refs.retain what = .ok (refs.plus 1) := by
  simp [retain, live, plus]

/-- A reference that is not the last is given up alone. -/
theorem release_many {refs : References} (many : 1 < refs.count) (what : Counted) :
    refs.release what = .ok (false, refs.minus 1) := by
  -- The count is neither zero nor one, so the latch is left alone.
  have some : refs.count ≠ 0 := by omega
  have other : (refs.count == 1) = false := by
    rw [beq_eq_false_iff_ne]
    omega
  simp only [release, decrement, some, other, if_false]
  rfl

end References

namespace World

/-- The world but for the counts. -/
def uncounted (world : World) : World := { world with counts := {}, nextKey := 0 }

/-- The counts of a world, and the next number. -/
def counted (world : World) : Table References × Nat := (world.counts, world.nextKey)

/-- Worlds with the same counts have the same references under every number. -/
theorem refs_of_counted {world other : World} (same : world.counted = other.counted) (key : Nat) :
    world.refs key = other.refs key :=
  congrArg (fun counted => counted.1.get key) same

@[simp] theorem uncounted_setRefs (world : World) (key : Nat) (given : References) :
    (world.setRefs key given).uncounted = world.uncounted := rfl

end World

namespace Act

variable {world : World} {key : Nat} {what : Counted}

/-- While anybody holds a reference, one more can be had. -/
theorem retain_live (live : (world.refs key).count ≠ 0) :
    retain key what world = (.ok (), world.setRefs key ((world.refs key).plus 1)) := by
  have counted : (world.counts.get key).count ≠ 0 := live
  simp [retain, References.retain_live counted, checkLifecycle, World.setRefs, World.refs]

/-- A reference that is not the last is given up alone. -/
theorem releaseThen_many (teardown : Act Unit) (many : 1 < (world.refs key).count) :
    releaseThen key what teardown world
      = (.ok (), world.setRefs key ((world.refs key).minus 1)) := by
  have counted : 1 < (world.counts.get key).count := many
  simp [releaseThen, release, References.release_many counted, checkLifecycle, World.setRefs,
    World.refs]

/-- What is live can be used. -/
theorem ensureLive_ok {after : World} (live : ensureLive key what world = (.ok (), after)) :
    (world.refs key).count ≠ 0 := by
  intro gone
  have counted : (world.counts.get key).count = 0 := gone
  simp only [ensureLive, Work.bind_apply, Work.get_apply, References.ensureLive,
    References.isReleased, counted, beq_self_eq_true, if_true] at live
  cases live

end Act

/-- The numbers of the counts of a binding and of the bindings inside it. -/
def Binding.keys : Binding → List Nat
  | cluster count _ _ => [count]
  | session count inner _ _ => count :: inner.keys

/-- The counts of a binding stand under numbers that were taken for them. -/
def Binding.Known (binding : Binding) (world : World) : Prop :=
  ∀ key ∈ binding.keys, key < world.nextKey

/-- A source comes from a binding: it holds a reference to the binding, and the source inside it
comes from the binding inside. -/
inductive Source.From : Source → Binding → Prop where
  | server (count key topology : Nat) (preference : ReadPreference) (selected : Server) :
    From (.server count (.cluster key topology preference) selected)
      (.cluster key topology preference)
  | session (count key : Nat) {inner : Binding} {source : Source} (session : Nat) (owned : Bool)
    (inside : From source inner) :
    From (.session count (.session key inner session owned) source)
      (.session key inner session owned)

/-- What an acquisition does to the counts: the counts of the source are new and held once, and
every binding on the way, which somebody holds, is held once more by the source. -/
structure Source.Lent (source : Source) (binding : Binding) (before after : World) : Prop where
  comes : source.From binding
  live : ∀ key ∈ binding.keys, (before.refs key).count ≠ 0
  distinct : source.keys.Nodup
  fresh : ∀ key ∈ source.keys, before.nextKey ≤ key ∧ key < after.nextKey
  refs : ∀ key, after.refs key =
    if key ∈ source.keys then .held 1 else (before.refs key).plus (binding.keys.count key)

/-- What the last release of a source does to the counts: nobody holds the source any more, and
every binding on the way is held once less. -/
structure Source.Returned (source : Source) (binding : Binding) (before after : World) : Prop where
  refs : ∀ key, after.refs key =
    if key ∈ source.keys then .held 0 else (before.refs key).minus (binding.keys.count key)
  same : after.uncounted = before.uncounted
  nextKey : after.nextKey = before.nextKey

section Parts

variable {before middle : World} {key topology session : Nat} {preference : ReadPreference}
  {selected : Server} {inner : Binding} {source : Source} {owned : Bool}

/-- A new source of a cluster holds its binding once more. -/
theorem Source.Lent.of_server (old : key < before.nextKey) (held : (before.refs key).count ≠ 0) :
    (Source.server before.nextKey (.cluster key topology preference) selected).Lent
      (.cluster key topology preference) before
      ((before.setRefs key ((before.refs key).plus 1)).spendKey.setRefs before.nextKey
        (.held 1)) where
  comes := .server ..
  live := by simpa [Binding.keys] using held
  distinct := by simp [Source.keys]
  fresh := by simp [Source.keys]
  refs other := by
    by_cases new : other = before.nextKey
    · simp [new, Source.keys]
    · by_cases same : other = key
      · subst same
        simp [new, Source.keys, Binding.keys]
      · simp [new, same, Source.keys, Binding.keys, Ne.symm same]

/-- A new source under a session holds its binding once more, beside what the source inside it
holds. -/
theorem Source.Lent.of_session (lent : source.Lent inner before middle)
    (later : before.nextKey ≤ middle.nextKey) (old : key < before.nextKey)
    (held : (before.refs key).count ≠ 0) :
    (Source.session middle.nextKey (.session key inner session owned) source).Lent
      (.session key inner session owned) before
      ((middle.setRefs key ((middle.refs key).plus 1)).spendKey.setRefs middle.nextKey
        (.held 1)) where
  comes := .session _ _ _ _ lent.comes
  live other member := by
    rcases List.mem_cons.mp member with rfl | inside
    · exact held
    · exact lent.live other inside
  distinct := by
    have unspent : middle.nextKey ∉ source.keys := fun inside =>
      Nat.lt_irrefl _ (lent.fresh _ inside).2
    exact List.nodup_cons.mpr ⟨unspent, lent.distinct⟩
  fresh other member := by
    simp only [World.nextKey_setRefs, World.nextKey_spendKey]
    rcases List.mem_cons.mp member with rfl | inside
    · omega
    · have := lent.fresh other inside
      omega
  refs other := by
    -- The counts of the source inside are new, so they are none of the binding's.
    have apart : key ∉ source.keys := fun inside =>
      Nat.not_lt.mpr (lent.fresh key inside).1 old
    by_cases new : other = middle.nextKey
    · simp [new, Source.keys]
    · by_cases same : other = key
      · -- The binding is held by its source, and perhaps by those that are inside.
        subst same
        simp [new, Source.keys, Binding.keys, lent.refs, apart]
      · simp [new, same, Source.keys, Binding.keys, lent.refs, Ne.symm same]

/-- A source of a cluster that is gone has given its binding back. -/
theorem Source.Returned.of_server {count : Nat} (apart : count ≠ key) :
    (Source.server count (.cluster key topology preference) selected).Returned
      (.cluster key topology preference) before
      ((before.setRefs count (.held 0)).setRefs key
        (((before.setRefs count (.held 0)).refs key).minus 1)) where
  refs number := by
    by_cases own : number = count
    · simp [own, apart, Source.keys]
    · by_cases same : number = key
      · simp [same, Ne.symm apart, Source.keys, Binding.keys]
      · simp [own, same, Source.keys, Binding.keys, Ne.symm same]
  same := rfl
  nextKey := rfl

/-- A source under a session that is gone has given its binding back, beside what the source inside
it has given back. -/
theorem Source.Returned.of_session {count : Nat}
    (returned : source.Returned inner (before.setRefs count (.held 0)) middle)
    (unshared : count ∉ source.keys) (apart : count ≠ key ∧ count ∉ inner.keys)
    (keyApart : key ∉ source.keys) :
    (Source.session count (.session key inner session owned) source).Returned
      (.session key inner session owned) before
      (middle.setRefs key ((middle.refs key).minus 1)) where
  refs number := by
    by_cases same : number = key
    · subst same
      simp [returned.refs, Source.keys, Binding.keys, keyApart, Ne.symm apart.1]
    · -- The count of the source itself is not touched by the source inside.
      by_cases own : number = count
      · subst own
        simp [apart.1, returned.refs, unshared, Source.keys, List.count_eq_zero_of_not_mem apart.2]
      · simp [same, own, returned.refs, Source.keys, Binding.keys, Ne.symm same]
  same := returned.same
  nextKey := returned.nextKey

end Parts

namespace Binding

variable {binding : Binding} {world after : World}

/-- An acquisition begins only while every binding on the way is held, and changes nothing. -/
theorem keeps_beginAcquire {τ : Type} {view : World → τ} (binding : Binding) :
    Work.Keeps view binding.beginAcquire := by
  induction binding with
  | cluster key topology preference => exact Act.keeps_ensureLive _ _
  | session key inner session owned ih => exact .bind (Act.keeps_ensureLive _ _) fun _ => ih

/-- A binding from which an acquisition has begun is held, and so are those inside it. -/
theorem beginAcquire_ok (begun : binding.beginAcquire world = (.ok (), after)) :
    ∀ key ∈ binding.keys, (world.refs key).count ≠ 0 := by
  -- One binding after the other is looked at, from the outside in.
  induction binding generalizing after with
  | cluster key topology preference =>
    intro other member
    obtain rfl := List.mem_singleton.mp member
    exact Act.ensureLive_ok begun
  | session key inner session owned ih =>
    obtain ⟨_, middle, live, rest⟩ := Work.bind_ok begun
    obtain rfl := Work.Keeps.same (Act.keeps_ensureLive _ _) live
    intro other member
    rcases List.mem_cons.mp member with rfl | inside
    · exact Act.ensureLive_ok live
    · exact ih rest other inside

/-- While all bindings on the way are held, an acquisition that has selected a server comes to a
source. -/
theorem finishAcquire_live (binding : Binding) (selected : Server) (world : World)
    (known : binding.Known world)
    (live : ∀ key ∈ binding.keys, (world.refs key).count ≠ 0) :
    ∃ source after, binding.finishAcquire selected world = (.ok source, after) ∧
      source.Lent binding world after ∧ world.nextKey ≤ after.nextKey := by
  induction binding with
  | cluster key topology preference =>
    have old : key < world.nextKey := known key (by simp [keys])
    have held : (world.refs key).count ≠ 0 := live key (by simp [keys])
    refine ⟨.server world.nextKey (.cluster key topology preference) selected, _, ?_,
      .of_server old held, by simp⟩
    simp only [finishAcquire, Work.bind_apply, Act.retain_live held, Act.freshCount_apply,
      Work.pure_apply]
    rfl
  | session key inner session owned ih =>
    have old : key < world.nextKey := known key (by simp [keys])
    have held : (world.refs key).count ≠ 0 := live key (by simp [keys])
    obtain ⟨source, middle, lends, lent, later⟩ :=
      ih (fun other inside => known other (by simp [keys, inside]))
        (fun other inside => live other (by simp [keys, inside]))
    -- The source inside has taken references only, so the binding is held as before.
    have still : (middle.refs key).count ≠ 0 := by
      rw [lent.refs, if_neg fun inside => Nat.not_lt.mpr (lent.fresh key inside).1 old]
      simp only [References.plus]
      omega
    refine ⟨_, _, ?_, .of_session lent later old held, ?_⟩
    · rw [finishAcquire, Work.bind_apply, lends]
      simp only [Work.bind_apply, Act.attempt, Act.retain_live still, Act.freshCount_apply,
        Work.pure_apply]
      rfl
    · simp only [World.nextKey_setRefs, World.nextKey_spendKey]
      omega

/-- An acquisition either comes to nothing and leaves all counts as they are, or comes to a source.
-/
theorem acquire_cases (binding : Binding) (intent : Intent) (world : World)
    (known : binding.Known world) :
    (∃ halt after, binding.acquire intent world = (.error halt, after) ∧
      after.counted = world.counted) ∨
    ∃ source after, binding.acquire intent world = (.ok source, after) ∧
      source.Lent binding world after ∧ world.nextKey ≤ after.nextKey := by
  simp only [acquire, Work.bind_apply]
  rcases begun : binding.beginAcquire world with ⟨halt | _, began⟩ <;>
    obtain rfl := Work.Keeps.same binding.keeps_beginAcquire begun
  · exact .inl ⟨halt, began, rfl, rfl⟩
  · have live := beginAcquire_ok begun
    have aside : Work.Keeps World.counted (Act.select binding.topology (binding.criteria intent)) :=
      (Act.aside_select _ _).part fun shared => (shared.counts, shared.nextKey)
    have quiet := aside began
    dsimp only
    rcases chosen : Act.select binding.topology (binding.criteria intent) began with
      ⟨halt | selected, middle⟩ <;> rw [chosen] at quiet
    · exact .inl ⟨halt, middle, rfl, quiet⟩
    · -- While the servers were awaited, nobody let go of the bindings.
      have number : middle.nextKey = began.nextKey := congrArg Prod.snd quiet
      have refs := World.refs_of_counted quiet
      obtain ⟨source, after, finished, lent, later⟩ := finishAcquire_live binding selected middle
        (fun key member => number ▸ known key member) (fun key member => refs key ▸ live key member)
      refine .inr ⟨source, after, finished, ⟨lent.comes, live, lent.distinct, ?_, ?_⟩, ?_⟩
      · rw [← number]
        exact lent.fresh
      · intro key
        rw [← refs key]
        exact lent.refs key
      · rw [← number]
        exact later

end Binding

/-- The last release of a source gives back all that its acquisition took, and fails nowhere on the
way: the bindings are held by others as well. -/
theorem Source.From.release {source : Source} {binding : Binding} (comes : source.From binding)
    (world : World) (distinct : source.keys.Nodup)
    (apart : ∀ key ∈ source.keys, key ∉ binding.keys)
    (one : ∀ key ∈ source.keys, world.refs key = .held 1)
    (kept : ∀ key ∈ binding.keys, binding.keys.count key < (world.refs key).count) :
    ∃ after, source.release world = (.ok (), after) ∧ source.Returned binding world after := by
  induction comes generalizing world with
  | server count key topology preference selected =>
    have other : count ≠ key := by simpa [Source.keys, Binding.keys] using apart
    have held : world.refs count = .held 1 := one count (by simp [Source.keys])
    have many : 1 < ((world.setRefs count (.held 0)).refs key).count := by
      simpa [Ne.symm other, Binding.keys] using kept key (by simp [Binding.keys])
    refine ⟨_, ?_, .of_server other⟩
    rw [Source.release, Act.releaseThen_last _ held, Binding.release, Act.releaseThen_many _ many]
  | session count key session owned inside ih =>
    rename_i inner source
    obtain ⟨unshared, distinct⟩ := List.nodup_cons.mp distinct
    have held : world.refs count = .held 1 := one count (by simp [Source.keys])
    have outside : count ≠ key ∧ count ∉ inner.keys := by
      simpa [Binding.keys] using apart count (by simp [Source.keys])
    have keyApart : key ∉ source.keys := fun member =>
      apart key (by simp [Source.keys, member]) (by simp [Binding.keys])
    -- The source inside goes first; the count of this one has no part in that.
    obtain ⟨middle, ended, returned⟩ := ih (world.setRefs count (.held 0)) distinct
      (fun other member => fun inside =>
        apart other (by simp [Source.keys, member]) (by simp [Binding.keys, inside]))
      (fun other member => by
        have own : other ≠ count := fun same => unshared (same ▸ member)
        simpa [own] using one other (by simp [Source.keys, member]))
      (fun other member => by
        have own : other ≠ count := fun same => outside.2 (same ▸ member)
        have more := kept other (by simp [Binding.keys, member])
        simp only [Binding.keys, List.count_cons] at more
        simp only [World.refs_setRefs, own, if_false]
        omega)
    have left : middle.refs key = (world.refs key).minus (inner.keys.count key) := by
      rw [returned.refs, if_neg keyApart]
      simp [Ne.symm outside.1]
    have many : 1 < (middle.refs key).count := by
      have more := kept key (by simp [Binding.keys])
      simp only [Binding.keys, List.count_cons_self] at more
      simp only [left, References.minus]
      omega
    refine ⟨_, ?_, .of_session returned unshared outside keyApart⟩
    rw [Source.release, Act.releaseThen_last _ held]
    refine Act.both_ok ended ?_
    rw [Binding.release, Act.releaseThen_many _ many]

/-- A source that was acquired can be given back as long as nobody touches the counts; then nobody
holds it any more, and all that was counted before is counted as it was. -/
theorem Source.Lent.back {source : Source} {binding : Binding} {before middle now : World}
    (lent : source.Lent binding before middle) (known : binding.Known before)
    (same : now.counted = middle.counted) :
    ∃ after, source.release now = (.ok (), after) ∧ after.uncounted = now.uncounted ∧
      (∀ key ∈ source.keys, after.refs key = .held 0) ∧
      ∀ key < before.nextKey, after.refs key = before.refs key := by
  have refs (key : Nat) : now.refs key =
      if key ∈ source.keys then .held 1 else (before.refs key).plus (binding.keys.count key) :=
    (World.refs_of_counted same key).trans (lent.refs key)
  have apart (key : Nat) (member : key ∈ source.keys) : key ∉ binding.keys := fun inside => by
    have := known key inside
    have := (lent.fresh key member).1
    omega
  have one (key : Nat) (member : key ∈ source.keys) : now.refs key = .held 1 := by
    rw [refs, if_pos member]
  -- Whoever held a binding before still does, so the source holds no last reference to it.
  have kept (key : Nat) (member : key ∈ binding.keys) :
      binding.keys.count key < (now.refs key).count := by
    have := lent.live key member
    rw [refs, if_neg fun inside => apart key inside member]
    simp only [References.plus]
    omega
  obtain ⟨after, released, returned⟩ := lent.comes.release now lent.distinct apart one kept
  refine ⟨after, released, returned.same, fun key member => ?_, fun key old => ?_⟩
  · rw [returned.refs, if_pos member]
  · have other : key ∉ source.keys := fun inside => by
      have := (lent.fresh key inside).1
      omega
    rw [returned.refs, if_neg other, refs, if_neg other, References.minus_plus]

end DocWire
