import DocWire.Proofs.Binding.Books

/-! The books of those who hold a binding under a session balance, whatever they do. -/

namespace DocWire
namespace Wrapping

variable (wrapping : Wrapping)

/-- The books balance: all counts in the world are what the books say, and the session that the
binding owns is closed just when no reference to the binding is left. -/
structure Balanced (was : Bool) (books : Books) : Prop where
  outer : books.world.refs wrapping.outer = .held books.bound
  inner : books.world.refs wrapping.inner =
    .held (books.others + (if books.bound = 0 then 0 else 1) + liveLoans books.loans)
  lent : ∀ loan ∈ books.loans, wrapping.Lent books.world loan
  distinct : (wrapping.keys books.loans).Nodup
  known : ∀ key ∈ wrapping.keys books.loans, key < books.world.nextKey
  closed : wrapping.closed books.world = if wrapping.owned then books.bound == 0 else was
  closings : books.closings = if wrapping.owned ∧ books.bound = 0 then 1 else 0

variable {wrapping} {was : Bool} {books : Books}

/-- A call that closes no session changes the books no further. -/
theorem moveTo_quiet {world : World} (quiet : world.closings = books.world.closings) :
    books.moveTo world = { books with world } := by
  simp [Books.moveTo, quiet]

/-- The two bindings have counts of their own. -/
theorem apart_of_nodup {loans : List Loan} (distinct : (wrapping.keys loans).Nodup) :
    wrapping.inner ≠ wrapping.outer := by
  simp only [keys, List.nodup_cons, List.mem_cons, not_or] at distinct
  exact Ne.symm distinct.1.1

/-- A source has counts of its own beside those of the bindings. -/
theorem foreign_of_nodup {loans : List Loan} (distinct : (wrapping.keys loans).Nodup) {loan : Loan}
    (member : loan ∈ loans) {key : Nat} (inside : key ∈ loan.source.keys) :
    key ≠ wrapping.outer ∧ key ≠ wrapping.inner := by
  -- A number that were both would be in the list twice.
  have listed : key ∈ loans.flatMap (·.source.keys) :=
    List.mem_flatMap.mpr ⟨loan, member, inside⟩
  simp only [keys, List.nodup_cons, List.mem_cons, not_or] at distinct
  constructor
  · rintro rfl
    exact distinct.1.2 listed
  · rintro rfl
    exact distinct.2.1 listed

namespace Balanced

/-- The two bindings have counts of their own as long as the books balance. -/
theorem apart (balanced : wrapping.Balanced was books) : wrapping.inner ≠ wrapping.outer :=
  apart_of_nodup balanced.distinct

/-- An owned session is open as long as somebody holds the binding. -/
theorem usable (balanced : wrapping.Balanced was books) (bound : books.bound ≠ 0)
    (owned : wrapping.owned) : wrapping.closed books.world = false := by
  -- The session that is owned is closed just when nobody is left.
  rw [balanced.closed, if_pos owned]
  simpa using bound

/-- The books balance in every world that looks the same to the holders. -/
theorem elsewhere (balanced : wrapping.Balanced was books) {after : World}
    (alone : wrapping.LeavesAlone books.loans books.world after) :
    wrapping.Balanced was { books with world := after } where
  outer := (alone.refs _ (by simp [keys])).trans balanced.outer
  inner := (alone.refs _ (by simp [keys])).trans balanced.inner
  lent loan member := (balanced.lent loan member).congr fun key inside =>
    alone.refs key (by
      simp only [keys, List.mem_cons, List.mem_flatMap]
      exact .inr (.inr ⟨loan, member, inside⟩))
  distinct := balanced.distinct
  known key member := Nat.lt_of_lt_of_le (balanced.known key member) alone.nextKey
  closed := alone.closed.trans balanced.closed
  closings := balanced.closings

/-- A source and the bindings have counts of their own as long as the books balance. -/
theorem foreign (balanced : wrapping.Balanced was books) {loan : Loan}
    (member : loan ∈ books.loans) {key : Nat} (inside : key ∈ loan.source.keys) :
    key ≠ wrapping.outer ∧ key ≠ wrapping.inner :=
  foreign_of_nodup balanced.distinct member inside

/-- The count of a binding has no part in what a source is in the world. -/
theorem lent_setRefs (balanced : wrapping.Balanced was books) {key : Nat} (given : References)
    (own : key = wrapping.outer ∨ key = wrapping.inner) :
    ∀ loan ∈ books.loans, wrapping.Lent (books.world.setRefs key given) loan := by
  intro loan member
  refine (balanced.lent loan member).congr fun other inside => ?_
  -- The sources have counts of their own, which are none of the two bindings.
  have foreign := balanced.foreign member inside
  have : other ≠ key := by
    rcases own with rfl | rfl
    · exact foreign.1
    · exact foreign.2
  simp [this]

/-- The books still balance after a change of counts that leaves the session alone. -/
theorem adjust (balanced : wrapping.Balanced was books) {other : Books}
    (bound : other.bound = 0 ↔ books.bound = 0)
    (outer : other.world.refs wrapping.outer = .held other.bound)
    (inner : other.world.refs wrapping.inner =
      .held (other.others + (if other.bound = 0 then 0 else 1) + liveLoans other.loans))
    (lent : ∀ loan ∈ other.loans, wrapping.Lent other.world loan)
    (same : wrapping.keys other.loans = wrapping.keys books.loans)
    (closed : wrapping.closed other.world = wrapping.closed books.world)
    (nextKey : other.world.nextKey = books.world.nextKey)
    (closings : other.closings = books.closings) : wrapping.Balanced was other where
  outer := outer
  inner := inner
  lent := lent
  -- The loans have the same keys as before.
  distinct := by
    rw [same]
    exact balanced.distinct
  known := by
    rw [same, nextKey]
    exact balanced.known
  closed := by
    have same : (other.bound == 0) = (books.bound == 0) := by
      rw [Bool.eq_iff_iff, beq_iff_eq, beq_iff_eq, bound]
    rw [closed, balanced.closed, same]
  closings := by
    rw [closings, balanced.closings]
    simp only [bound]

/-- One more reference to the binding is had as long as somebody holds one. -/
theorem retain (balanced : wrapping.Balanced was books) :
    wrapping.Balanced was (wrapping.perform books .retain).2 := by
  have outer := balanced.outer
  have inner := balanced.inner
  simp only [perform, binding, Binding.retain, Binding.count, Binding.counted]
  -- Nobody can revive a binding that is gone; any other holder adds one.
  cases bound : books.bound with
  | zero =>
    rw [Act.retain_gone (outer.trans (by rw [bound])), Books.gain, moveTo_quiet rfl]
    exact balanced
  | succ number =>
    rw [Act.retain_held (outer.trans (by rw [bound])), Books.gain,
      moveTo_quiet (World.closings_setRefs ..)]
    have more : books.direct + 1 + liveLoans books.loans = number + 2 := by
      simp only [Books.bound] at bound
      omega
    rw [bound] at inner
    -- No source and no session has to do with this count.
    refine balanced.adjust ?_ ?_ ?_ (balanced.lent_setRefs _ (.inl rfl)) rfl rfl rfl rfl
    · simp [Books.bound] at bound ⊢
      omega
    · simp [Books.bound, more]
    · simp [Books.bound, more, balanced.apart, inner]

/-- One more reference to the binding inside is had as long as there is one. -/
theorem retainInside (balanced : wrapping.Balanced was books) :
    wrapping.Balanced was (wrapping.perform books .retainInside).2 := by
  have outer := balanced.outer
  have inner := balanced.inner
  simp only [perform, wrapped, Binding.retain, Binding.count, Binding.counted]
  -- The binding inside is gone when nobody has any part in it.
  cases counted : books.others + (if books.bound = 0 then 0 else 1) + liveLoans books.loans with
  | zero =>
    rw [Act.retain_gone (inner.trans (by rw [counted])), Books.gain, moveTo_quiet rfl]
    exact balanced
  | succ number =>
    rw [Act.retain_held (inner.trans (by rw [counted])), Books.gain,
      moveTo_quiet (World.closings_setRefs ..)]
    refine balanced.adjust .rfl ?_ ?_ (balanced.lent_setRefs _ (.inr rfl)) rfl rfl rfl rfl
    · simp only [World.refs_setRefs, balanced.apart.symm, if_false]
      exact outer
    · rw [World.refs_setRefs, if_pos rfl]
      change References.held (number + 2) = .held
        (books.others + 1 + (if books.bound = 0 then 0 else 1) + liveLoans books.loans)
      congr 1
      omega

/-- A reference to the binding inside that others hold can be given up. -/
theorem releaseInside (balanced : wrapping.Balanced was books)
    (permitted : wrapping.Permits books .releaseInside) :
    (wrapping.perform books .releaseInside).1 = .ok () ∧
      wrapping.Balanced was (wrapping.perform books .releaseInside).2 := by
  -- One of the references that others hold goes, and the rest stay.
  have held : 0 < books.others := permitted
  have inner : books.world.refs wrapping.inner = .held
      (books.others - 1 + (if books.bound = 0 then 0 else 1) + liveLoans books.loans + 1) := by
    rw [balanced.inner]
    congr 1
    omega
  simp only [perform, release_wrapped inner, true_and, moveTo_quiet (World.closings_setRefs ..)]
  refine balanced.adjust .rfl ?_ ?_ (balanced.lent_setRefs _ (.inr rfl)) rfl rfl rfl rfl
  · simp only [World.refs_setRefs, balanced.apart.symm, if_false]
    exact balanced.outer
  · rw [World.refs_setRefs, if_pos rfl]
    rfl

/-- After a release of a reference to the binding the books balance, when they did but for this one
reference. -/
theorem ofReleased {left inside : Nat} {middle : World}
    (released : wrapping.Released left inside middle books.world) (bound : books.bound = left)
    (given : middle.refs wrapping.inner = .held (inside + 1))
    (counted : books.others + liveLoans books.loans = inside)
    (lent : ∀ loan ∈ books.loans, wrapping.Lent middle loan)
    (distinct : (wrapping.keys books.loans).Nodup)
    (known : ∀ key ∈ wrapping.keys books.loans, key < middle.nextKey)
    (closed : wrapping.closed middle = if wrapping.owned then false else was)
    (closings : books.closings = books.world.closings - middle.closings) :
    wrapping.Balanced was books := by
  refine ⟨?_, ?_, ?_, distinct, ?_, ?_, ?_⟩
  · rw [released.refs, if_pos rfl, bound]
  · -- The reference to the binding inside goes together with the last one to the outer binding.
    rw [released.refs, if_neg (apart_of_nodup distinct), bound]
    by_cases last : left = 0
    · simp [last, counted]
    · rw [if_neg (by simp [last]), given, if_neg last]
      congr 1
      omega
  · intro loan member
    refine (lent loan member).congr fun key inside => ?_
    have foreign := foreign_of_nodup distinct member inside
    simp [released.refs, foreign.1, foreign.2]
  · rw [released.nextKey]
    exact known
  · rw [released.closed, closed, bound]
    cases wrapping.owned <;> by_cases last : left = 0 <;> simp [last]
  · rw [closings, released.closings, bound]
    omega

/-- A reference to the binding that is held can be given up. -/
theorem release (balanced : wrapping.Balanced was books)
    (permitted : wrapping.Permits books .release) :
    (wrapping.perform books .release).1 = .ok () ∧
      wrapping.Balanced was (wrapping.perform books .release).2 := by
  -- The books lose the one reference that the release is about.
  have held : 0 < books.direct := permitted
  have bound : books.bound = books.direct - 1 + liveLoans books.loans + 1 := by
    simp only [Books.bound]
    omega
  have inner := balanced.inner
  rw [if_neg (by omega)] at inner
  have inner : books.world.refs wrapping.inner
      = .held (books.others + liveLoans books.loans + 1) := inner.trans (by congr 1; omega)
  obtain ⟨after, done, released⟩ := release_binding balanced.apart
    (balanced.outer.trans (by rw [bound])) inner (balanced.usable (by omega))
  simp only [perform, done, true_and]
  refine .ofReleased released rfl inner rfl balanced.lent balanced.distinct balanced.known ?_ ?_
  · simpa [bound] using balanced.closed
  · simpa [Books.moveTo, bound] using balanced.closings

/-- The loan at a place stands between those before it and those after it, and stays there. -/
theorem exists_place {loans : List Loan} {place : Nat} {loan : Loan}
    (found : loans[place]? = some loan) :
    ∃ front back, loans = front ++ loan :: back ∧
      ∀ change, loans.modify place change = front ++ change loan :: back := by
  -- Each step past a loan moves it to the front part.
  induction loans generalizing place with
  | nil => simp at found
  | cons head rest ih =>
    cases place with
    | zero =>
      simp only [List.getElem?_cons_zero, Option.some.injEq] at found
      subst found
      exact ⟨[], rest, rfl, fun change => rfl⟩
    | succ place =>
      obtain ⟨front, back, same, changed⟩ := ih (by simpa using found)
      exact ⟨head :: front, back, by rw [same]; rfl,
        fun change => by rw [List.modify_succ_cons, changed]; rfl⟩

/-- Changing how often a source is held changes no number of a count. -/
theorem keys_hold (wrapping : Wrapping) (front back : List Loan) (loan : Loan) (held : Nat) :
    wrapping.keys (front ++ { loan with held } :: back)
      = wrapping.keys (front ++ loan :: back) := by
  simp [keys]

/-- The counts of a source are told apart from those of the sources before and after it. -/
theorem alone (balanced : wrapping.Balanced was books) {front back : List Loan} {loan : Loan}
    (split : books.loans = front ++ loan :: back) {other : Loan}
    (member : other ∈ front ∨ other ∈ back) {key : Nat} (inside : key ∈ other.source.keys) :
    key ∉ loan.source.keys := by
  -- The list of all numbers has none of them twice.
  intro both
  have distinct := balanced.distinct
  rw [keys, split] at distinct
  simp only [List.flatMap_append, List.flatMap_cons, List.nodup_cons, List.nodup_append] at distinct
  obtain ⟨-, -, -, ⟨-, -, cross⟩, apart⟩ := distinct
  rcases member with before | after
  · exact apart key (List.mem_flatMap.mpr ⟨other, before, inside⟩) key
      (List.mem_append_left _ both) rfl
  · exact cross key both key (List.mem_flatMap.mpr ⟨other, after, inside⟩) rfl

/-- The numbers of the two counts of a source differ from each other and from those of the
bindings. -/
theorem nodup_source (balanced : wrapping.Balanced was books) {loan : Loan}
    (member : loan ∈ books.loans) {count within : Nat} {server : Server}
    (named : loan.source = wrapping.source count within server) :
    [wrapping.outer, wrapping.inner, count, within].Nodup := by
  have inside : loan.source.keys = [count, within] := by rw [named]; rfl
  -- The four numbers stand in this order among all that the books know.
  obtain ⟨front, back, split⟩ := List.append_of_mem member
  have distinct := balanced.distinct
  rw [keys, split] at distinct
  refine List.Sublist.nodup ?_ distinct
  simp only [List.flatMap_append, List.flatMap_cons, inside]
  refine .cons_cons _ (.cons_cons _ ?_)
  exact List.sublist_append_of_sublist_right (List.sublist_append_left [count, within] _)

/-- When a source is given up or taken once more, the others stay what they are, provided that no
other count of theirs changes. -/
theorem lent_replace (balanced : wrapping.Balanced was books) {front back : List Loan}
    {loan changed : Loan} (split : books.loans = front ++ loan :: back) {after : World}
    (same : ∀ other ∈ books.loans, ∀ key ∈ other.source.keys, key ∉ loan.source.keys →
      after.refs key = books.world.refs key)
    (lent : wrapping.Lent after changed) :
    ∀ other ∈ front ++ changed :: back, wrapping.Lent after other := by
  have elsewhere (other : Loan) (beside : other ∈ front ∨ other ∈ back) :
      wrapping.Lent after other := by
    have known : other ∈ books.loans := by
      rw [split]
      rcases beside with before | later
      · exact List.mem_append_left _ before
      · exact List.mem_append_right _ (List.mem_cons_of_mem _ later)
    -- No two sources share a count.
    exact (balanced.lent other known).congr fun key inside =>
      same other known key inside (balanced.alone split beside inside)
  intro other listed
  rcases List.mem_append.mp listed with before | now
  · exact elsewhere other (.inl before)
  · rcases List.mem_cons.mp now with rfl | later
    · exact lent
    · exact elsewhere other (.inr later)

/-- Sources stay what they are when only the count of one of them changes, and does not come to
zero. -/
theorem recount (balanced : wrapping.Balanced was books) {front back : List Loan} {loan : Loan}
    (split : books.loans = front ++ loan :: back) {number : Nat} (live : loan.held ≠ 0)
    (left : number ≠ 0) :
    wrapping.Balanced was { books with
      world := books.world.setRefs loan.source.count (.held number)
      loans := front ++ { loan with held := number } :: back } := by
  have member : loan ∈ books.loans := by simp [split]
  obtain ⟨count, within, server, named, held, one⟩ := balanced.lent loan member
  have counted : loan.source.count = count := by rw [named]; rfl
  have listed : count ∈ loan.source.keys := by simp [named, source, Source.keys]
  have outside := balanced.foreign member listed
  have distinct := balanced.nodup_source member named
  simp only [List.nodup_cons, List.mem_cons, List.not_mem_nil, or_false, not_or] at distinct
  -- As many sources are live as before.
  have same : liveLoans (front ++ { loan with held := number } :: back)
      = liveLoans books.loans := by
    simp [liveLoans, split, Nat.pos_of_ne_zero live, Nat.pos_of_ne_zero left]
  have bound (world : World) : { books with
      world, loans := front ++ { loan with held := number } :: back }.bound = books.bound := by
    simp only [Books.bound, same]
  rw [counted]
  refine balanced.adjust ?_ ?_ ?_ ?_ ?_ rfl rfl rfl
  · rw [bound]
  · rw [bound, World.refs_setRefs, if_neg outside.1.symm, balanced.outer]
  · rw [bound, World.refs_setRefs, if_neg outside.2.symm, balanced.inner, same]
  · refine balanced.lent_replace split (fun other known key inside apart => ?_) ?_
    · have : key ≠ count := by
        rintro rfl
        exact apart listed
      simp [this]
    · refine ⟨count, within, server, named, by simp, ?_⟩
      rw [World.refs_setRefs, if_neg (Ne.symm distinct.2.2.1), one]
      show References.held (min loan.held 1) = .held (min number 1)
      congr 1
      omega
  · rw [split]
    exact keys_hold _ front back loan number

/-- One more reference to a source is had as long as somebody holds one. -/
theorem retainSource (balanced : wrapping.Balanced was books) (place : Nat) :
    wrapping.Balanced was (wrapping.perform books (.retainSource place)).2 := by
  simp only [perform]
  -- A place where no source is stands for no move at all.
  cases found : books.loans[place]? with
  | none => exact balanced
  | some loan =>
    obtain ⟨front, back, split, changed⟩ := exists_place found
    obtain ⟨count, within, server, named, held, one⟩ := balanced.lent loan (by simp [split])
    have counted : books.world.refs loan.source.count = .held loan.held := by
      rw [named]
      exact held
    simp only [Source.retain]
    cases number : loan.held with
    | zero =>
      -- The source was fully released, so the books have nothing to add.
      rw [Act.retain_gone (counted.trans (by rw [number])), Books.gain, moveTo_quiet rfl]
      exact balanced
    | succ left =>
      rw [Act.retain_held (counted.trans (by rw [number])), Books.gain,
        moveTo_quiet (World.closings_setRefs ..)]
      simp only [Books.hold, changed, number]
      exact balanced.recount split (by omega) (by omega)

/-- The last reference to a source gives back what the source held, one reference to each binding.
-/
theorem returnSource (balanced : wrapping.Balanced was books) {loan : Loan} {front back : List Loan}
    (split : books.loans = front ++ loan :: back) (single : loan.held = 1) :
    ∃ after, loan.source.release books.world = (.ok (), after) ∧
      wrapping.Balanced was
        { books.moveTo after with loans := front ++ { loan with held := 0 } :: back } := by
  have member : loan ∈ books.loans := by simp [split]
  obtain ⟨count, within, server, named, held, one⟩ := balanced.lent loan member
  have distinct := balanced.nodup_source member named
  -- One source less is live.
  have live : liveLoans books.loans = liveLoans (front ++ { loan with held := 0 } :: back) + 1 := by
    simp [liveLoans, split, single]
    omega
  have bound : books.bound
      = books.direct + liveLoans (front ++ { loan with held := 0 } :: back) + 1 := by
    simp only [Books.bound]
    omega
  have inner : books.world.refs wrapping.inner = .held (books.others
      + liveLoans (front ++ { loan with held := 0 } :: back) + 2) := by
    rw [balanced.inner, if_neg (by omega)]
    congr 1
    omega
  obtain ⟨after, done, released⟩ := release_source_last server distinct
    (held.trans (by rw [single])) (one.trans (by rw [single]; rfl))
    (balanced.outer.trans (by rw [bound])) inner (balanced.usable (by omega))
  rw [← named] at done
  have same := keys_hold wrapping front back loan 0
  refine ⟨after, done, .ofReleased released rfl (by simp) rfl ?_ ?_ ?_ ?_ ?_⟩
  · refine balanced.lent_replace split (fun other known key inside apart => ?_) ?_
    · simp only [named, source, Source.keys, List.mem_cons, List.not_mem_nil, or_false,
        not_or] at apart
      simp [(balanced.foreign known inside).2, apart]
    · simp only [List.nodup_cons, List.mem_cons, List.not_mem_nil, or_false, not_or] at distinct
      refine ⟨count, within, server, named, ?_, ?_⟩
      · simp [Ne.symm distinct.2.1.1, distinct.2.2.1]
      · simp [Ne.symm distinct.2.1.2]
  · rw [same, ← split]
    exact balanced.distinct
  · rw [same, ← split]
    exact balanced.known
  · simpa [bound] using balanced.closed
  · simpa [bound, Books.moveTo] using balanced.closings

/-- A reference to a source that is held can be given up. -/
theorem releaseSource (balanced : wrapping.Balanced was books) {place : Nat}
    (permitted : wrapping.Permits books (.releaseSource place)) :
    (wrapping.perform books (.releaseSource place)).1 = .ok () ∧
      wrapping.Balanced was (wrapping.perform books (.releaseSource place)).2 := by
  obtain ⟨loan, found, live⟩ := permitted
  obtain ⟨front, back, split, changed⟩ := exists_place found
  obtain ⟨left, number⟩ : ∃ left, loan.held = left + 1 := ⟨loan.held - 1, by omega⟩
  simp only [perform, found]
  -- Either somebody else holds the source, or everything it holds goes with it.
  by_cases last : left = 0
  case neg =>
    obtain ⟨count, within, server, named, held, one⟩ := balanced.lent loan (by simp [split])
    have counted : loan.source.count = count := by rw [named]; rfl
    have kept : (wrapping.source count within server).release books.world
        = (.ok (), books.world.setRefs count (.held left)) :=
      release_source_kept within server last (held.trans (by rw [number]))
    have balanced := balanced.recount split (by omega) last
    rw [counted] at balanced
    rw [← named] at kept
    simp only [kept, moveTo_quiet (World.closings_setRefs ..), Books.hold, changed, number,
      Nat.add_sub_cancel]
    exact ⟨trivial, balanced⟩
  case pos =>
    subst last
    obtain ⟨after, done, balanced⟩ := balanced.returnSource split number
    simp only [done, Books.hold, Books.moveTo, changed, number]
    exact ⟨trivial, balanced⟩

/-- Books on a world that looks the same are moved on in the same way. -/
theorem lend_alike {world : World} (alike : world.shared = books.world.shared)
    (outcome : Except Halt Source × World) :
    (books.lend outcome) = { books with world }.lend outcome := by
  -- What the books take from the world is the number of reports alone.
  have closings : world.closings = books.world.closings := congrArg World.Shared.closings alike
  rcases outcome with ⟨_ | source, after⟩ <;> simp [Books.lend, Books.moveTo, closings]

/-- What is like the world to every holder leaves the holders alone. -/
theorem leavesAlone {world : World} (alike : world.shared = books.world.shared) :
    wrapping.LeavesAlone books.loans books.world world where
  refs key _ := congrArg (fun shared : World.Shared => shared.counts.get key) alike
  closed := congrArg
    (fun shared : World.Shared => (shared.sessions.get wrapping.session).closed) alike
  nextKey := Nat.le_of_eq (congrArg World.Shared.nextKey alike).symm

/-- A new source that holds a reference to each binding keeps the balance. -/
theorem acquired (balanced : wrapping.Balanced was books) {left : Nat} {server : Server}
    {after : World} (bound : books.bound = left + 1)
    (acquired : wrapping.Acquired (left + 1) (books.others + liveLoans books.loans + 1)
      books.world after) :
    wrapping.Balanced was { books with
      world := after
      loans := books.loans ++
        [{ source := wrapping.source (books.world.nextKey + 1) books.world.nextKey server }] } := by
  have known := balanced.known
  have outerKnown := known wrapping.outer (by simp [keys])
  have innerKnown := known wrapping.inner (by simp [keys])
  -- The two new numbers are beyond all that were known.
  have old {key : Nat} (listed : key ∈ wrapping.keys books.loans) :
      ¬(key = books.world.nextKey + 1 ∨ key = books.world.nextKey) := by
    have := known key listed
    omega
  have live : liveLoans (books.loans ++
      [{ source := wrapping.source (books.world.nextKey + 1) books.world.nextKey server }])
      = liveLoans books.loans + 1 := by simp [liveLoans]
  have more : books.direct + (liveLoans books.loans + 1) = left + 2 := by
    simp only [Books.bound] at bound
    omega
  have listed : wrapping.keys (books.loans ++
      [{ source := wrapping.source (books.world.nextKey + 1) books.world.nextKey server }])
      = wrapping.keys books.loans ++ [books.world.nextKey + 1, books.world.nextKey] := by
    simp [keys, source, Source.keys]
  refine ⟨?_, ?_, fun loan member => ?_, ?_, fun key member => ?_, ?_, ?_⟩
  · -- The new source holds one reference more to the outer binding.
    simp only [Books.bound, live, more]
    rw [acquired.refs, if_neg (old (by simp [keys])), if_pos rfl]
  · -- The source inside it holds one more to the binding inside.
    simp only [Books.bound, live, more]
    rw [acquired.refs, if_neg (old (by simp [keys])), if_neg balanced.apart, if_pos rfl]
    congr 1
    simp
    omega
  · -- Sources from before have kept their counts, and the new one has its own.
    rcases List.mem_append.mp member with earlier | new
    · refine (balanced.lent loan earlier).congr fun key inside => ?_
      have outside := balanced.foreign earlier inside
      have known : key ∈ wrapping.keys books.loans := by
        simp only [keys, List.mem_cons, List.mem_flatMap]
        exact .inr (.inr ⟨loan, earlier, inside⟩)
      have before := old known
      rw [acquired.refs, if_neg before, if_neg outside.1, if_neg outside.2]
    · simp only [List.mem_singleton] at new
      subst new
      exact ⟨_, _, server, rfl, by simp [acquired.refs], by simp [acquired.refs]⟩
  · rw [listed, List.nodup_append]
    refine ⟨balanced.distinct, by simp, fun key earlier other new same => ?_⟩
    have := old earlier
    simp only [List.mem_cons, List.not_mem_nil, or_false] at new
    omega
  · rw [acquired.nextKey]
    rw [listed, List.mem_append] at member
    rcases member with earlier | new
    · have := known key earlier
      omega
    · simp only [List.mem_cons, List.not_mem_nil, or_false] at new
      omega
  · have closed := balanced.closed
    rw [bound] at closed
    rw [acquired.closed, closed]
    simp [Books.bound, live, more]
  · have closings := balanced.closings
    rw [bound] at closings
    simpa [Books.bound, live] using closings

/-- Once nobody holds the binding, an acquisition that has selected a server comes to nothing, and
nobody notices it. -/
theorem finishAcquire_none (balanced : wrapping.Balanced was books) (none : books.bound = 0)
    (server : Server) :
    ∃ halt after, wrapping.binding.finishAcquire server books.world = (.error halt, after) ∧
      after.closings = books.world.closings ∧
      wrapping.LeavesAlone books.loans books.world after := by
  have outer := balanced.outer
  have inner := balanced.inner
  have live : liveLoans books.loans = 0 := by
    simp only [Books.bound] at none
    omega
  rw [none] at outer inner
  rw [if_pos rfl, live] at inner
  -- The binding inside may still be held by others, who then lend and get back.
  cases number : books.others with
  | zero =>
    -- Nobody holds either binding, so the one inside is asked in vain.
    have gone := finishAcquire_wrapped_gone server (inner.trans (by rw [number]))
    refine ⟨.ofCause (.lifecycle (.retainedAfterRelease .binding)), books.world, ?_, rfl,
      fun _ _ => rfl, rfl, Nat.le_refl _⟩
    rw [binding, Binding.finishAcquire, Work.bind_apply, gone]
  | succ left =>
    obtain ⟨after, refused, nothing⟩ := finishAcquire_gone server balanced.apart
      (balanced.known wrapping.outer (by simp [keys]))
      (balanced.known wrapping.inner (by simp [keys])) outer (inner.trans (by rw [number]))
    refine ⟨_, after, refused, nothing.closings, fun key listed => ?_, nothing.closed, ?_⟩
    · rw [nothing.refs, if_neg (Nat.ne_of_lt (balanced.known key listed))]
    · rw [nothing.nextKey]
      omega

/-- Once a server is selected, an acquisition comes to a source that holds a reference to each
binding, or to nothing. -/
theorem finishAcquire (balanced : wrapping.Balanced was books) (server : Server) :
    wrapping.Balanced was
      (books.lend (wrapping.binding.finishAcquire server books.world)).2 := by
  -- What was selected says nothing of who still holds the binding by now.
  cases bound : books.bound with
  | zero =>
    obtain ⟨halt, after, refused, quiet, alone⟩ := balanced.finishAcquire_none bound server
    rw [refused, Books.lend, moveTo_quiet quiet]
    exact balanced.elsewhere alone
  | succ left =>
    have outer := balanced.outer
    have inner := balanced.inner
    rw [bound] at outer inner
    have given : books.world.refs wrapping.inner
        = .held (books.others + liveLoans books.loans + 1) := by
      rw [inner, if_neg (Nat.succ_ne_zero left)]
      congr 1
      omega
    obtain ⟨after, done, acquired⟩ := finishAcquire_held server balanced.apart
      (balanced.known wrapping.outer (by simp [keys])) outer given
    rw [done, Books.lend, moveTo_quiet acquired.closings]
    exact balanced.acquired bound acquired

/-- An acquisition that comes to nothing, or to a source, keeps the balance. -/
theorem acquire (balanced : wrapping.Balanced was books) (intent : Intent) :
    wrapping.Balanced was (wrapping.perform books (.acquire intent)).2 := by
  -- Until the server is selected, no holder notices anything.
  have began : Act.Aside wrapping.binding.beginAcquire :=
    .bind (Act.keeps_ensureLive _ _) fun _ => Act.keeps_ensureLive _ _
  have selected := Act.aside_select wrapping.binding.topology (wrapping.binding.criteria intent)
  simp only [perform, Binding.acquire, Work.bind_apply]
  have alike := began books.world
  rcases beginning : wrapping.binding.beginAcquire books.world with ⟨halt | _, world⟩
  · -- The binding is gone, and the acquisition does not begin.
    rw [beginning] at alike
    rw [lend_alike alike, Books.lend, moveTo_quiet rfl]
    exact balanced.elsewhere (leavesAlone alike)
  · rw [beginning] at alike
    have later := (selected world).trans alike
    rcases selecting : Act.select wrapping.binding.topology (wrapping.binding.criteria intent) world
      with ⟨halt | server, world⟩
    · -- Nobody can be selected, or nobody waits for it.
      rw [selecting] at later
      simp only [selecting]
      rw [lend_alike later, Books.lend, moveTo_quiet rfl]
      exact balanced.elsewhere (leavesAlone later)
    · rw [selecting] at later
      simp only [selecting]
      rw [lend_alike later]
      exact (balanced.elsewhere (leavesAlone later)).finishAcquire server

/-- Every move that is allowed keeps the balance, and every reference is given up as asked. -/
theorem perform (balanced : wrapping.Balanced was books) {move : Move}
    (permitted : wrapping.Permits books move) :
    wrapping.Balanced was (wrapping.perform books move).2 := by
  -- Each move has been shown to keep the balance on its own.
  cases move with
  | acquire intent => exact balanced.acquire intent
  | finishAcquire server => exact balanced.finishAcquire server
  | retain => exact balanced.retain
  | release => exact (balanced.release permitted).2
  | retainSource place => exact balanced.retainSource place
  | releaseSource place => exact (balanced.releaseSource permitted).2
  | retainInside => exact balanced.retainInside
  | releaseInside => exact (balanced.releaseInside permitted).2
  | elsewhere change => exact balanced.elsewhere permitted

/-- The books balance after every run of moves that are allowed. -/
theorem run (balanced : wrapping.Balanced was books) {moves : List Move}
    (permitted : wrapping.PermitsAll books moves) :
    wrapping.Balanced was (wrapping.run books moves) := by
  -- Each move hands on books that balance to the moves after it.
  induction moves generalizing books with
  | nil => exact balanced
  | cons move rest ih => exact ih (balanced.perform permitted.1) permitted.2

end Balanced

end Wrapping
end DocWire
