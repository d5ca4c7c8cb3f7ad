import DocWire.Proofs.Binding.Borrowing

/-! Attempts to acquire a source from a binding under a session, side by side. Liveness is judged
before a server is awaited, and references are taken after it, one binding after the other; in
between, either binding may be released down to nothing. An attempt is cut into steps that touch one
shared count each, so that anything can happen between two of them. -/

namespace DocWire

/-- How far an attempt has got: it was made; the outer binding was found held; both were, and a
server is awaited; the binding inside has given a source; the outer one is gone, so that the source
has to go back. In the end it has returned a source, or has failed. -/
inductive Attempt where
  | made
  | begun
  | waiting
  | lent (inside : Source)
  | refused (halt : Halt) (inside : Source)
  | returned (source : Source)
  | failed (halt : Halt)

/-- The next thing that an attempt does. While it waits, it may also fail or be dropped. -/
inductive Leg where
  | begin
  | look
  | find (server : Server)
  | leave (halt : Halt)
  | claim
  | giveBack

/-- What happens while attempts are made: one is made or goes on, somebody gives up a reference to
either binding, the teardown of the outer one goes on, or something happens elsewhere. -/
inductive Stride where
  | make
  | go (place : Nat) (leg : Leg)
  | release
  | close
  | letGo
  | releaseInside
  | elsewhere (other : World)

/-- The world with the attempts that were made, how often a release of either binding was asked for,
and how far the teardowns of the outer one have come: how many were claimed, how many have dealt
with the session, and how many have given up the binding inside. -/
structure Contest where
  world : World
  attempts : List Attempt := []
  releases : Nat := 0
  insideReleases : Nat := 0
  teardowns : Nat := 0
  closings : Nat := 0
  lettings : Nat := 0

namespace Attempt

/-- The counts that belong to the attempt, or to the source that it came to. -/
def keys : Attempt → List Nat
  | lent inside | refused _ inside => inside.keys
  | returned source => source.keys
  | _ => []

/-- Whether the attempt came to a source. -/
def hasReturned : Attempt → Bool
  | returned _ => true
  | _ => false

/-- Whether the attempt holds a source of the binding inside that is not yet accounted for. -/
def carries : Attempt → Bool
  | lent _ | refused _ _ => true
  | _ => false

/-- Whether the attempt waits for a server. -/
def isWaiting : Attempt → Bool
  | waiting => true
  | _ => false

/-- What has come of the attempt. -/
def ofResult : Except Halt Source → Attempt
  | .ok source => returned source
  | .error halt => failed halt

/-- The attempt goes on, or has failed. -/
def settle {α : Type} (onward : α → Attempt) : Except Halt α × World → Attempt × World
  | (.ok value, world) => (onward value, world)
  | (.error halt, world) => (failed halt, world)

theorem settle_world {α : Type} (onward : α → Attempt) (result : Except Halt α × World) :
    (settle onward result).2 = result.2 := by
  rcases result with ⟨_ | _, _⟩ <;> rfl

/-- The source has been put around the one inside, or the one inside has to go back. -/
def wrap (inside : Source) : Except Halt Source × World → Attempt × World
  | (.ok source, world) => (returned source, world)
  | (.error halt, world) => (refused halt inside, world)

theorem wrap_world (inside : Source) (result : Except Halt Source × World) :
    (wrap inside result).2 = result.2 := by
  rcases result with ⟨_ | _, _⟩ <;> rfl

end Attempt

namespace World

/-- Something has happened to all of the world but the counts. -/
def besides (world other : World) : World :=
  { other with counts := world.counts, nextKey := max world.nextKey other.nextKey }

@[simp] theorem refs_besides (world other : World) (key : Nat) :
    (world.besides other).refs key = world.refs key := rfl

end World

namespace Contest

/-- How many attempts have returned a source. -/
def returned (contest : Contest) : Nat := contest.attempts.countP (·.hasReturned)

/-- How many attempts are between the two bindings. -/
def carried (contest : Contest) : Nat := contest.attempts.countP (·.carries)

theorem getElem?_waiting {contest : Contest} {place : Nat}
    (waits : contest.attempts[place]?.any (·.isWaiting) = true) :
    contest.attempts[place]? = some .waiting := by
  cases found : contest.attempts[place]? with
  | none => simp [found] at waits
  | some attempt =>
    rw [found] at waits
    cases attempt with
    | waiting => rfl
    | _ => cases waits

/-- The attempt at a place has got somewhere, and the world has become what it is now. -/
def put (contest : Contest) (place : Nat) (reached : Attempt × World) : Contest :=
  { contest with world := reached.2, attempts := contest.attempts.set place reached.1 }

theorem put_put (contest : Contest) (place : Nat) (first second : Attempt × World) :
    (contest.put place first).put place second = contest.put place second := by
  simp only [put, List.set_set]

/-- One more attempt, which has got somewhere by now. -/
def add (contest : Contest) (reached : Attempt × World) : Contest :=
  { contest with world := reached.2, attempts := contest.attempts ++ [reached.1] }

theorem put_add (contest : Contest) (first second : Attempt × World) :
    (contest.add first).put contest.attempts.length second = contest.add second := by
  simp [put, add]

theorem put_self {contest : Contest} {place : Nat} {attempt : Attempt}
    (there : contest.attempts[place]? = some attempt) :
    contest.put place (attempt, contest.world) = contest := by
  obtain ⟨within, rfl⟩ := List.getElem?_eq_some_iff.mp there
  simp only [put, List.set_getElem_self]

end Contest

/-- The steps by which an attempt comes to its end once a server was found: it takes a reference to
each binding, or gives back what it has taken. -/
def Leg.ending (server : Server) : List Leg := [.find server, .claim, .giveBack]

/-- A step of an attempt. -/
def Stride.IsAttempt : Stride → Prop
  | .make | .go .. => True
  | _ => False

namespace Wrapping

variable (wrapping : Wrapping)

/-- A source around the one that the binding inside has given, if the outer binding is still
there. -/
def claim (inside : Source) : Act Source := do
  Act.retain wrapping.outer .sessionBinding
  return .session (← Act.freshCount) wrapping.binding inside

/-- What an attempt comes to by a step; a step out of its turn changes nothing. -/
def go : Attempt → Leg → World → Attempt × World
  | .made, .begin, world =>
    Attempt.settle (fun _ => .begun) (Act.ensureLive wrapping.outer .sessionBinding world)
  | .begun, .look, world =>
    Attempt.settle (fun _ => .waiting) (wrapping.wrapped.beginAcquire world)
  | .waiting, .find server, world =>
    Attempt.settle .lent (wrapping.wrapped.finishAcquire server world)
  -- Nobody can be stopped but before the start and while a server is awaited.
  | .made, .leave halt, world => (.failed halt, world)
  | .waiting, .leave halt, world => (.failed halt, world)
  | .lent inside, .claim, world => Attempt.wrap inside (wrapping.claim inside world)
  | .refused halt inside, .giveBack, world => (.failed halt, (Binding.giveBack inside world).2)
  | attempt, _, world => (attempt, world)

/-- The part of a teardown that deals with the session. -/
def closing : Act Unit :=
  if wrapping.owned then Act.closeOwnedSession wrapping.session else pure ()

/-- What a step comes to; what cannot happen changes nothing. -/
def stride (contest : Contest) : Stride → Contest
  | .make => { contest with attempts := contest.attempts ++ [.made] }
  | .go place leg =>
    match contest.attempts[place]? with
    | none => contest
    | some attempt =>
      let (attempt, world) := wrapping.go attempt leg contest.world
      { contest with world, attempts := contest.attempts.set place attempt }
  | .release =>
    let (result, world) := Act.release wrapping.outer .sessionBinding contest.world
    -- The one who is told so runs the teardown.
    let last := match result with
      | .ok true => 1
      | _ => 0
    { contest with
      world
      releases := contest.releases + 1
      teardowns := contest.teardowns + last }
  | .close =>
    if contest.closings < contest.teardowns then
      { contest with
        world := (wrapping.closing contest.world).2
        closings := contest.closings + 1 }
    else contest
  | .letGo =>
    -- The binding inside is given up after the session.
    if contest.lettings < contest.closings then
      { contest with
        world := (wrapping.wrapped.release contest.world).2
        lettings := contest.lettings + 1 }
    else contest
  | .releaseInside =>
    { contest with
      world := (wrapping.wrapped.release contest.world).2
      insideReleases := contest.insideReleases + 1 }
  | .elsewhere other => { contest with world := contest.world.besides other }

/-- What many steps come to. -/
def strides (contest : Contest) (steps : List Stride) : Contest :=
  steps.foldl wrapping.stride contest

/-- How far an attempt gets by steps of its own that nothing comes in between of. -/
def legs (reached : Attempt × World) (steps : List Leg) : Attempt × World :=
  steps.foldl (fun reached leg => wrapping.go reached.1 leg reached.2) reached

/-- The steps of an acquisition that nothing comes in between of, made by the attempt at a place: it
looks at both bindings, and if they are held, it waits for a server, while the world goes on as it
does while servers are awaited. -/
def acquiring (world : World) (place : Nat) (intent : Intent) : List Stride :=
  [.make, .go place .begin, .go place .look] ++
    match wrapping.binding.beginAcquire world with
    | (.error _, _) => []
    | (.ok _, begun) =>
      match Act.select wrapping.binding.topology (wrapping.binding.criteria intent) begun with
      | (.error halt, waited) => [.elsewhere waited, .go place (.leave halt)]
      | (.ok server, waited) => .elsewhere waited :: (Leg.ending server).map (.go place)

end Wrapping

namespace Wrapping

variable {wrapping : Wrapping} {contest : Contest}

/-- Steps come one after another. -/
theorem strides_append (contest : Contest) (first second : List Stride) :
    wrapping.strides contest (first ++ second)
      = wrapping.strides (wrapping.strides contest first) second :=
  List.foldl_append

/-- A step of the attempt at a place. -/
theorem stride_go {place : Nat} {attempt : Attempt}
    (there : contest.attempts[place]? = some attempt) (leg : Leg) :
    wrapping.stride contest (.go place leg)
      = contest.put place (wrapping.go attempt leg contest.world) := by
  simp only [stride, there]
  rfl

/-- Steps of one attempt that nothing comes in between of. -/
theorem strides_go {place : Nat} {attempt : Attempt}
    (there : contest.attempts[place]? = some attempt) (steps : List Leg) :
    wrapping.strides contest (steps.map (.go place))
      = contest.put place (wrapping.legs (attempt, contest.world) steps) := by
  -- By induction on the steps, each of which starts where the one before has got to.
  induction steps generalizing contest attempt with
  | nil => exact (Contest.put_self there).symm
  | cons leg rest ih =>
    have within := (List.getElem?_eq_some_iff.mp there).1
    have next : (contest.put place (wrapping.go attempt leg contest.world)).attempts[place]?
        = some (wrapping.go attempt leg contest.world).1 := by
      simp [Contest.put, within]
    rw [List.map_cons, strides, List.foldl_cons, stride_go there]
    exact (ih next).trans (Contest.put_put ..)

/-- What happens elsewhere and leaves the counts alone is all that happens. -/
theorem stride_elsewhere {other : World} (quiet : other.counted = contest.world.counted) :
    wrapping.stride contest (.elsewhere other) = { contest with world := other } := by
  have counts : other.counts = contest.world.counts := congrArg Prod.fst quiet
  have nextKey : other.nextKey = contest.world.nextKey := congrArg Prod.snd quiet
  simp only [stride, World.besides, ← counts, ← nextKey, Nat.max_self]

/-- Nobody is told of a source that does not go back. -/
theorem giveBack_ok (inside : Source) (world : World) :
    ∃ after, Binding.giveBack inside world = (.ok (), after) := by
  simp only [Binding.giveBack, Work.bind_apply, Act.attempt]
  rcases inside.release world with ⟨_ | _, _⟩ <;> exact ⟨_, rfl⟩

/-- What an attempt comes to that has found a server is what the end of an acquisition comes to. -/
theorem legs_ending (server : Server) (world : World) :
    wrapping.legs (.waiting, world) (Leg.ending server)
      = (.ofResult (wrapping.binding.finishAcquire server world).1,
          (wrapping.binding.finishAcquire server world).2) := by
  simp only [legs, Leg.ending, List.foldl_cons, List.foldl_nil, binding, Binding.finishAcquire,
    Work.bind_apply, go]
  rcases wrapping.wrapped.finishAcquire server world with ⟨halt | inside, given⟩
  · -- There is nothing to put a source around, and nothing to give back.
    rfl
  · simp only [Attempt.settle, claim, Work.bind_apply, Act.attempt]
    rcases Act.retain wrapping.outer .sessionBinding given with ⟨halt | _, taken⟩
    · obtain ⟨after, back⟩ := giveBack_ok inside taken
      simp only [Attempt.wrap, Work.bind_apply, back]
      rfl
    · rfl

/-- An attempt that has found a server does in three steps what the end of an acquisition does. -/
theorem finish_strides {place : Nat} (waits : contest.attempts[place]? = some .waiting)
    (server : Server) :
    wrapping.strides contest ((Leg.ending server).map (.go place))
      = contest.put place (.ofResult (wrapping.binding.finishAcquire server contest.world).1,
          (wrapping.binding.finishAcquire server contest.world).2) := by
  rw [strides_go waits, legs_ending]

/-- What comes of an attempt that looks at both bindings is what the beginning of an acquisition
comes to. -/
theorem legs_looking (world : World) :
    wrapping.legs (.made, world) [.begin, .look]
      = Attempt.settle (fun _ => .waiting) (wrapping.binding.beginAcquire world) := by
  have begins : wrapping.binding.beginAcquire = (do
      Act.ensureLive wrapping.outer .sessionBinding
      wrapping.wrapped.beginAcquire) := rfl
  simp only [legs, List.foldl_cons, List.foldl_nil, go, begins, Work.bind_apply]
  -- Who has failed at the outer binding does not look at the inner one.
  rcases Act.ensureLive wrapping.outer .sessionBinding world with ⟨halt | _, looked⟩ <;> rfl

/-- An acquisition that nothing comes in between of is one of the schedules. -/
theorem acquire_strides (contest : Contest) (intent : Intent) :
    wrapping.strides contest
        (wrapping.acquiring contest.world contest.attempts.length intent)
      = { contest with
          world := (wrapping.binding.acquire intent contest.world).2
          attempts := contest.attempts
            ++ [.ofResult (wrapping.binding.acquire intent contest.world).1] } := by
  have made : (wrapping.stride contest .make).attempts[contest.attempts.length]? = some .made :=
    List.getElem?_concat_length
  -- After the two looks, the world is what it was, and the attempt waits or has failed.
  have looks (rest : List Stride) : wrapping.strides contest
      ([.make, .go contest.attempts.length .begin, .go contest.attempts.length .look] ++ rest)
        = wrapping.strides (contest.add
            (Attempt.settle (fun _ => .waiting) (wrapping.binding.beginAcquire contest.world)))
          rest := by
    have looked : wrapping.strides _ _ = _ := strides_go made [.begin, .look]
    rw [legs_looking] at looked
    rw [strides_append, ← contest.put_add (.made, contest.world)]
    exact congrArg (wrapping.strides · rest) looked
  rw [acquiring, looks]
  simp only [Binding.acquire, Work.bind_apply]
  rcases begun : wrapping.binding.beginAcquire contest.world with ⟨halt | _, looked⟩
  · obtain rfl := Work.Keeps.same (Binding.keeps_beginAcquire _) begun
    rfl
  obtain rfl := Work.Keeps.same (Binding.keeps_beginAcquire _) begun
  rcases chosen : Act.select wrapping.binding.topology (wrapping.binding.criteria intent)
    contest.world with ⟨selected, waited⟩
  -- Servers are awaited with no count touched, so it is all that happens in between.
  have quiet : waited.counted = contest.world.counted := by
    have aside := Act.aside_select wrapping.binding.topology (wrapping.binding.criteria intent)
    have quiet := (aside.part fun shared => (shared.counts, shared.nextKey)) contest.world
    rwa [chosen] at quiet
  have waits (rest : List Stride) : wrapping.strides (contest.add (.waiting, contest.world))
      (.elsewhere waited :: rest) = wrapping.strides (contest.add (.waiting, waited)) rest :=
    congrArg (wrapping.strides · rest) (stride_elsewhere quiet)
  have waiting : (contest.add (.waiting, waited)).attempts[contest.attempts.length]?
      = some .waiting := List.getElem?_concat_length
  rcases selected with halt | server
  · have left : wrapping.strides _ _ = _ := strides_go waiting [.leave halt]
    rw [Contest.put_add] at left
    simp only [Attempt.settle, chosen]
    exact (waits _).trans left
  · have ended : wrapping.strides _ _ = _ := finish_strides waiting server
    rw [Contest.put_add] at ended
    simp only [Attempt.settle, chosen]
    exact (waits _).trans ended

/-- A release that nothing comes in between of is one of the schedules, too, where no teardown is
under way. -/
theorem release_strides (settled : contest.lettings = contest.closings)
    (closed : contest.closings = contest.teardowns) :
    ∃ torn, wrapping.strides contest [.release, .close, .letGo]
      = { contest with
          world := (wrapping.binding.release contest.world).2
          releases := contest.releases + 1
          teardowns := torn
          closings := torn
          lettings := torn } := by
  obtain ⟨world, attempts, releases, insideReleases, teardowns, closings, lettings⟩ := contest
  obtain rfl : lettings = closings := settled
  obtain rfl : lettings = teardowns := closed
  simp only [strides, List.foldl_cons, List.foldl_nil, stride, binding, Binding.release,
    Act.releaseThen, Work.bind_apply]
  rcases Act.release wrapping.outer .sessionBinding world with ⟨halt | last, after⟩
  · exact ⟨lettings, by simp⟩
  cases last with
  | false => exact ⟨lettings, by simp⟩
  | true =>
    -- The parts of the teardown follow one another whatever comes of the first.
    refine ⟨lettings + 1, ?_⟩
    simp only [Nat.lt_succ_self, if_true, Act.both, Act.attempt, Work.bind_apply, closing]
    rcases (if wrapping.owned then Act.closeOwnedSession wrapping.session else pure ()) after
      with ⟨_ | _, middle⟩
    all_goals
      rcases last : wrapping.wrapped.release middle with ⟨_ | _, ended⟩
      all_goals simp [Act.resume, last]

end Wrapping
end DocWire
