import DocWire.Proofs.Binding.Balance

/-! Runs of those who hold a binding under a session: they acquire sources from it, and take and
give up references in any order. Along every such run the counts are what the books say, and the
session that the binding owns is closed once, when the last reference to the binding is given up. -/

namespace DocWire
namespace Wrapping

variable {wrapping : Wrapping} {was : Bool} {books : Books}

/-- A binding that nobody holds is never held again. -/
theorem bound_perform_none (balanced : wrapping.Balanced was books) {move : Move}
    (permitted : wrapping.Permits books move) (none : books.bound = 0) :
    (wrapping.perform books move).2.bound = 0 := by
  -- Nobody is left, neither a direct holder nor a source.
  have outer := balanced.outer
  rw [none] at outer
  have direct : books.direct = 0 := by
    simp only [Books.bound] at none
    omega
  have live : liveLoans books.loans = 0 := by
    simp only [Books.bound] at none
    omega
  have dead (loan : Loan) (member : loan ∈ books.loans) : loan.held = 0 := by
    have := List.countP_eq_zero.mp live loan member
    simpa using this
  cases move with
  | acquire intent =>
    -- The outer binding is the first to be judged.
    have refused : wrapping.binding.acquire intent books.world
        = (.error (.ofCause (.lifecycle (.usedAfterRelease .sessionBinding))), books.world) := by
      have gone : books.world.counts.get wrapping.outer = .held 0 := outer
      simp [binding, Binding.acquire, Binding.beginAcquire, Act.ensureLive, gone,
        References.ensureLive, References.isReleased, Act.checkLifecycle, Act.fail]
    rw [perform, refused]
    exact none
  | finishAcquire server =>
    obtain ⟨halt, after, refused, -, -⟩ := balanced.finishAcquire_none none server
    rw [perform, refused]
    exact none
  | retain =>
    simp only [perform, binding, Binding.retain, Binding.count, Binding.counted,
      Act.retain_gone outer]
    exact none
  | release =>
    have : 0 < books.direct := permitted
    omega
  | retainSource place =>
    -- A source that is still held would hold the binding.
    simp only [perform]
    cases found : books.loans[place]? with
    | none => exact none
    | some loan =>
      have member := List.mem_of_getElem? found
      obtain ⟨count, within, server, named, held, -⟩ := balanced.lent loan member
      rw [dead loan member] at held
      simp only [named, Source.retain, source, Source.count, Act.retain_gone held]
      exact none
  | releaseSource place =>
    obtain ⟨loan, found, held⟩ := permitted
    have := dead loan (List.mem_of_getElem? found)
    omega
  | retainInside =>
    -- The binding inside is no part of the references to the outer one.
    simp only [perform]
    rcases wrapping.wrapped.retain books.world with ⟨halt | _, world⟩ <;> exact none
  | releaseInside => exact none
  | elsewhere change => exact none

/-- Only a release brings the references to the binding down to none. -/
theorem bound_perform {move : Move} (other : ¬move.IsRelease)
    (none : (wrapping.perform books move).2.bound = 0) : books.bound = 0 := by
  -- Whatever else is done adds to the books, or leaves them as they are.
  have lends (outcome : Except Halt Source × World)
      (none : (books.lend outcome).2.bound = 0) : books.bound = 0 := by
    rcases outcome with ⟨halt | source, world⟩
    · exact none
    · simp only [Books.lend, Books.bound, Books.moveTo, liveLoans, List.countP_append] at none ⊢
      omega
  have gains (more : Books → Books) (grows : ∀ books, (more books).bound = 0 → books.bound = 0)
      (outcome : Except Halt Unit × World)
      (none : (books.gain more outcome).2.bound = 0) : books.bound = 0 := by
    rcases outcome with ⟨halt | _, world⟩
    · exact none
    · exact grows (books.moveTo world) none
  cases move with
  | acquire intent => exact lends _ none
  | finishAcquire server => exact lends _ none
  | retain =>
    refine gains _ (fun books none => ?_) _ none
    simp only [Books.bound] at none
    omega
  | release => exact (other trivial).elim
  | retainSource place =>
    simp only [perform] at none
    cases found : books.loans[place]? with
    | none => simpa [found] using none
    | some loan =>
      simp only [found] at none
      refine gains _ (fun books none => ?_) _ none
      -- A source that is retained was live, or is now.
      cases listed : books.loans[place]? with
      | none =>
        have beyond := List.getElem?_eq_none_iff.mp listed
        simpa only [Books.bound, Books.hold, List.modify_eq_self beyond] using none
      | some loan =>
        obtain ⟨front, back, split, changed⟩ := Balanced.exists_place listed
        simp [Books.bound, Books.hold, changed, liveLoans] at none
  | releaseSource place => exact (other trivial).elim
  | retainInside =>
    exact gains (fun books => { books with others := books.others + 1 }) (fun _ none => none) _ none
  | releaseInside => exact none
  | elsewhere change => exact none

/-- A binding that was just made under a session balances: one reference to it is the maker's, and
it has taken over one to the binding inside. -/
theorem balanced_underSession {world start : World} {others : Nat}
    (given : world.refs wrapping.inner = .held (others + 1))
    (known : wrapping.inner < world.nextKey)
    (usable : wrapping.owned → wrapping.closed world = false)
    (made : wrapping.wrapped.underSession wrapping.session wrapping.owned world
      = (.ok wrapping.binding, start)) :
    wrapping.Balanced (wrapping.closed world) { world := start, direct := 1, others } := by
  have named := congrArg Prod.fst made
  simp only [Binding.underSession, Work.bind_apply, Act.freshCount_apply, Work.pure_apply, binding,
    Except.ok.injEq, Binding.session.injEq, and_true] at named
  have outer : world.nextKey = wrapping.outer := named
  obtain rfl : world.spendKey.setRefs world.nextKey (.held 1) = start := congrArg Prod.snd made
  -- The new count is not the one of the binding inside, which was known before.
  have apart : wrapping.inner ≠ world.nextKey := Nat.ne_of_lt known
  refine ⟨?_, ?_, by simp, ?_, ?_, ?_, ?_⟩
  · simp [outer, Books.bound, liveLoans]
  · simp [apart, given, Books.bound, liveLoans]
  · simp only [keys, List.flatMap_nil, List.nodup_cons, List.mem_cons, List.not_mem_nil, or_false,
      not_false_eq_true, List.nodup_nil, and_self, and_true, ← outer]
    exact apart.symm
  · simp only [keys, List.flatMap_nil, List.mem_cons, List.not_mem_nil, or_false, ← outer]
    rintro key (rfl | rfl)
    · show world.nextKey < world.nextKey + 1
      omega
    · show wrapping.inner < world.nextKey + 1
      omega
  · simp only [Books.bound, liveLoans]
    cases owned : wrapping.owned with
    | false => rfl
    | true => exact usable owned
  · simp [Books.bound, liveLoans]

/-- Along every run of those who hold a binding under a session, the count of the binding is that of
the references to it and of its live sources; the binding inside is held once more as long as the
outer one is, and once more for each live source; and an owned session is closed once, by the very
release that gives up the last reference to the binding. -/
theorem counts_of_run {world start : World} {others : Nat} {moves : List Move}
    (given : world.refs wrapping.inner = .held (others + 1))
    (known : wrapping.inner < world.nextKey)
    (usable : wrapping.owned → wrapping.closed world = false)
    (made : wrapping.wrapped.underSession wrapping.session wrapping.owned world
      = (.ok wrapping.binding, start))
    (permitted : wrapping.PermitsAll { world := start, direct := 1, others } moves) :
    let books := wrapping.run { world := start, direct := 1, others } moves
    let outer (books : Books) := (books.world.refs wrapping.outer).count
    let inner (books : Books) := (books.world.refs wrapping.inner).count
    outer books = books.direct + liveLoans books.loans ∧
    inner books = books.others + (if 0 < outer books then 1 else 0) + liveLoans books.loans ∧
    (∀ loan ∈ books.loans, (books.world.refs loan.source.count).count = loan.held) ∧
    wrapping.closed books.world
      = (if wrapping.owned then outer books == 0 else wrapping.closed world) ∧
    books.closings = (if wrapping.owned ∧ outer books = 0 then 1 else 0) ∧
    ∀ move, wrapping.Permits books move →
      let next := (wrapping.perform books move).2
      (move.IsRelease → (wrapping.perform books move).1 = .ok ()) ∧
      (0 < outer books → outer next = 0 → move.IsRelease) ∧
      next.closings = books.closings +
        (if wrapping.owned ∧ 0 < outer books ∧ outer next = 0 then 1 else 0) ∧
      (outer books = 0 → outer next = 0) := by
  intro books outer inner
  have balanced : wrapping.Balanced (wrapping.closed world) books :=
    (balanced_underSession given known usable made).run permitted
  have count {books : Books} (balanced : wrapping.Balanced (wrapping.closed world) books) :
      outer books = books.bound := by
    simp only [outer, balanced.outer, References.count_held]
  refine ⟨count balanced, ?_, fun loan member => ?_, ?_, ?_, fun move allowed => ?_⟩
  · -- The one reference that was taken over is there as long as the binding is.
    rw [count balanced]
    simp only [inner, balanced.inner, References.count_held]
    by_cases none : books.bound = 0 <;> simp [none, Nat.pos_of_ne_zero]
  · obtain ⟨key, within, server, named, held, -⟩ := balanced.lent loan member
    simp only [named, source, Source.count, held, References.count_held]
  · rw [count balanced]
    exact balanced.closed
  · rw [count balanced]
    exact balanced.closings
  · have after := balanced.perform allowed
    have stays := bound_perform_none balanced allowed
    simp only [count balanced, count after]
    refine ⟨fun releases => ?_, fun held none => ?_, ?_, stays⟩
    · cases move with
      | release => exact (balanced.release allowed).1
      | releaseSource place => exact (balanced.releaseSource allowed).1
      | _ => exact releases.elim
    · -- No other move brings the references down to none.
      by_cases releases : move.IsRelease
      · exact releases
      · have := bound_perform releases none
        omega
    · -- Before and after, a session was closed once if nobody is left, and else never.
      rw [balanced.closings, after.closings]
      by_cases none : books.bound = 0
      · simp [none, stays none]
      · simp [none, Nat.pos_of_ne_zero none]

/-- A source may be given up as long as it is held. -/
theorem permits_releaseSource {place : Nat}
    (live : (books.loans[place]?.any fun loan => 0 < loan.held) = true) :
    wrapping.Permits books (.releaseSource place) := by
  cases found : books.loans[place]? with
  | none => simp [found] at live
  | some loan => exact ⟨loan, found, by simpa [found] using live⟩

/-- Two sources outlive the direct references to their binding, and one of them was retained. Each
keeps both bindings held as long as it is held itself, and the session is closed with the last
reference to the last of them. -/
theorem counts_of_run_sources :
    let server : Server := {
      description := { address := default, type := .standalone }
      connection := { address := default, type := .standalone } }
    let world : World := {
      network := { patience := 10 }
      sessions := ⟨[(0, { server := ⟨0⟩, pool := 0, causal := false })]⟩
      topologies := ⟨[(0, { type := .single, servers := [server] })]⟩
      counts := ⟨[(0, .held 2)]⟩
      nextKey := 1 }
    let wrapping : Wrapping := ⟨1, 0, 0, .primary, 0, true⟩
    let start : World := world.spendKey.setRefs 1 (.held 1)
    let moves : List Move := [.acquire .write, .retain, .finishAcquire server, .retainSource 0,
      .release, .releaseSource 0, .release, .releaseSource 1]
    let books := wrapping.run { world := start, direct := 1, others := 1 } moves
    let next := (wrapping.perform books (.releaseSource 0)).2
    wrapping.PermitsAll { world := start, direct := 1, others := 1 } moves ∧
      wrapping.Permits books (.releaseSource 0) ∧
      books.direct = 0 ∧ books.loans.map (·.held) = [1, 0] ∧
      (books.world.refs wrapping.outer).count = 1 ∧ (books.world.refs wrapping.inner).count = 3 ∧
      books.closings = 0 ∧ wrapping.closed books.world = false ∧
      (next.world.refs wrapping.outer).count = 0 ∧ next.closings = 1 := by
  intro server world wrapping start moves
  have permitted : wrapping.PermitsAll { world := start, direct := 1, others := 1 } moves :=
    ⟨trivial, trivial, trivial, show 0 < List.length _ by decide +kernel,
      show 0 < Books.direct _ by decide +kernel, permits_releaseSource (by decide +kernel),
      show 0 < Books.direct _ by decide +kernel, permits_releaseSource (by decide +kernel), trivial⟩
  have given : world.refs wrapping.inner = .held (1 + 1) := rfl
  have made : wrapping.wrapped.underSession wrapping.session wrapping.owned world
      = (.ok wrapping.binding, start) := rfl
  have counted := counts_of_run given Nat.one_pos (fun _ => rfl) made permitted
  -- What the books say at the end is read off them, and all the rest follows from it.
  have said : let books := wrapping.run { world := start, direct := 1, others := 1 } moves
      books.direct = 0 ∧ books.others = 1 ∧ books.loans.map (·.held) = [1, 0] ∧
        liveLoans books.loans = 1 ∧
        (((wrapping.perform books (.releaseSource 0)).2.world).refs wrapping.outer).count = 0 := by
    decide +kernel
  have last : wrapping.Permits (wrapping.run { world := start, direct := 1, others := 1 } moves)
      (.releaseSource 0) := permits_releaseSource (by decide +kernel)
  generalize wrapping.run { world := start, direct := 1, others := 1 } moves = books at *
  obtain ⟨direct, others, held, live, gone⟩ := said
  obtain ⟨outer, inner, -, closed, closings, step⟩ := counted
  obtain ⟨-, -, closes, -⟩ := step (.releaseSource 0) last
  -- One reference is left, which is the source's, and with it the session goes.
  have owned : wrapping.owned = true := rfl
  have one : (books.world.refs wrapping.outer).count = 1 := outer.trans (by rw [direct, live])
  simp only [others, one, live] at inner
  simp only [owned, one] at closed closings
  simp only [owned, one, gone, closings] at closes
  exact ⟨permitted, last, direct, held, one, inner, closings, closed, gone, closes⟩

end Wrapping
end DocWire
