import DocWire.Proofs.Binding.Wrapping

/-! The books of those who hold a binding under a session: what they hold, and what every move of
theirs changes. -/

namespace DocWire

/-- A source that was acquired, and the references to it that are still to be given up. -/
structure Loan where
  source : Source
  held : Nat := 1

/-- The sources that are not yet fully released. -/
def liveLoans (loans : List Loan) : Nat := loans.countP fun loan => 0 < loan.held

/-- The world, and the books on it: the references to the binding that are held directly, those to
the binding inside that others hold, the sources, and how often the holders closed a session. -/
structure Books where
  world : World
  direct : Nat
  others : Nat
  loans : List Loan := []
  closings : Nat := 0

/-- What a holder does. An acquisition may end long after it began, so its end is a move of its own;
and the rest of the world goes on meanwhile. -/
inductive Move where
  | acquire (intent : Intent)
  | finishAcquire (server : Server)
  | retain
  | release
  | retainSource (place : Nat)
  | releaseSource (place : Nat)
  | retainInside
  | releaseInside
  | elsewhere (change : World → World)

/-- A move that gives up a reference to the binding, or to a source of it. -/
def Move.IsRelease : Move → Prop
  | .release | .releaseSource _ => True
  | _ => False

namespace Books

/-- How many references to the binding there are by the books: each source that is not yet fully
released holds one. -/
def bound (books : Books) : Nat := books.direct + liveLoans books.loans

/-- The books after a call of a holder, which may have closed a session. -/
def moveTo (books : Books) (world : World) : Books :=
  { books with
    world
    closings := books.closings + (world.closings - books.world.closings) }

/-- The books after an acquisition. -/
def lend (books : Books) : Except Halt Source × World → Except Halt Unit × Books
  | (.ok source, world) =>
    (.ok (), { books.moveTo world with loans := books.loans ++ [{ source }] })
  -- An acquisition that comes to nothing leaves nothing to give back.
  | (.error halt, world) => (.error halt, books.moveTo world)

/-- The books after somebody asked for one more reference, which counts if it was had. -/
def gain (books : Books) (more : Books → Books) :
    Except Halt Unit × World → Except Halt Unit × Books
  | (.ok (), world) => (.ok (), more (books.moveTo world))
  | (.error halt, world) => (.error halt, books.moveTo world)

/-- The books after a change of what is held of the source at a place. -/
def hold (books : Books) (place : Nat) (change : Nat → Nat) : Books :=
  { books with
    loans := books.loans.modify place fun loan => { loan with held := change loan.held } }

end Books

namespace Wrapping

variable (wrapping : Wrapping)

/-- What comes of a move, and the books after it. -/
def perform (books : Books) : Move → Except Halt Unit × Books
  | .acquire intent => books.lend (wrapping.binding.acquire intent books.world)
  | .finishAcquire server => books.lend (wrapping.binding.finishAcquire server books.world)
  | .retain =>
    books.gain (fun books => { books with direct := books.direct + 1 })
      (wrapping.binding.retain books.world)
  | .release =>
    let (result, world) := wrapping.binding.release books.world
    (result, { books.moveTo world with direct := books.direct - 1 })
  | .retainSource place =>
    match books.loans[place]? with
    | none => (.ok (), books)
    | some loan => books.gain (·.hold place (· + 1)) (loan.source.retain books.world)
  | .releaseSource place =>
    match books.loans[place]? with
    | none => (.ok (), books)
    | some loan =>
      let (result, world) := loan.source.release books.world
      (result, (books.moveTo world).hold place (· - 1))
  | .retainInside =>
    books.gain (fun books => { books with others := books.others + 1 })
      (wrapping.wrapped.retain books.world)
  | .releaseInside =>
    let (result, world) := wrapping.wrapped.release books.world
    (result, { books.moveTo world with others := books.others - 1 })
  -- What happens elsewhere is no deed of a holder.
  | .elsewhere change => (.ok (), { books with world := change books.world })

/-- The numbers of all counts that the holders have to do with. -/
def keys (loans : List Loan) : List Nat :=
  wrapping.outer :: wrapping.inner :: loans.flatMap (·.source.keys)

/-- What may happen elsewhere: the counts stay as they are, and nobody else closes the session. -/
structure LeavesAlone (loans : List Loan) (before after : World) : Prop where
  refs : ∀ key ∈ wrapping.keys loans, after.refs key = before.refs key
  closed : wrapping.closed after = wrapping.closed before
  nextKey : before.nextKey ≤ after.nextKey

/-- Whether a move is allowed: nobody gives up a reference that is not theirs. -/
def Permits (books : Books) : Move → Prop
  | .release => 0 < books.direct
  | .retainSource place => place < books.loans.length
  | .releaseSource place => ∃ loan, books.loans[place]? = some loan ∧ 0 < loan.held
  | .releaseInside => 0 < books.others
  | .elsewhere change => wrapping.LeavesAlone books.loans books.world (change books.world)
  | _ => True

/-- The books after moves, one after another. -/
def run (books : Books) (moves : List Move) : Books :=
  moves.foldl (fun books move => (wrapping.perform books move).2) books

/-- Whether each of the moves is allowed when it is made. -/
def PermitsAll (books : Books) : List Move → Prop
  | [] => True
  | move :: rest =>
    wrapping.Permits books move ∧ PermitsAll (wrapping.perform books move).2 rest

/-- A source is in the world what it is in the books: it is held as often as they say, and holds the
source inside as long as it is held itself. -/
def Lent (world : World) (loan : Loan) : Prop :=
  ∃ count within server, loan.source = wrapping.source count within server ∧
    world.refs count = .held loan.held ∧ world.refs within = .held (min loan.held 1)

/-- A source is what it was in a world where its counts are what they were. -/
theorem Lent.congr {wrapping : Wrapping} {world after : World} {loan : Loan}
    (lent : wrapping.Lent world loan)
    (same : ∀ key ∈ loan.source.keys, after.refs key = world.refs key) :
    wrapping.Lent after loan := by
  -- Its two counts are all that the world knows of it.
  obtain ⟨count, within, server, source, held, one⟩ := lent
  simp only [source, Wrapping.source, Source.keys, List.mem_cons, List.not_mem_nil, or_false,
    forall_eq_or_imp, forall_eq] at same
  exact ⟨count, within, server, source, same.1.trans held, same.2.trans one⟩

end Wrapping
end DocWire
