import DocWire.Proofs.Operation.Silence
import DocWire.Proofs.Session.Clock
import DocWire.Proofs.Session.Ledger

/-! The course that sessions take: a session keeps its server session for good, and is never opened
again once it is closed, whatever is asked of the library and whatever commands are run. -/

namespace DocWire

namespace World.Closed

variable {closed : List Nat} {before after : World}

/-- What was closed before is closed still. -/
theorem stays (done : Closed closed before after) {key : Nat}
    (gone : (before.sessions.get key).closed = true) : (after.sessions.get key).closed = true := by
  simp [done.sessions, gone]

end World.Closed

namespace Ledger

/-- A ledger comes after another one: no session is forgotten, none has another server session, and
none that was closed is open again. -/
structure Follows (before after : Ledger) : Prop where
  started : before.started ⊆ after.started
  servers : ∀ key ∈ before.started, after.world.server key = before.world.server key
  closed : ∀ key ∈ before.started, (before.world.sessions.get key).closed = true →
    (after.world.sessions.get key).closed = true

namespace Follows

section Order

variable {before middle after : Ledger}

theorem refl (ledger : Ledger) : ledger.Follows ledger :=
  ⟨List.Subset.refl _, fun _ _ => rfl, fun _ _ gone => gone⟩

theorem trans (first : before.Follows middle) (second : middle.Follows after) :
    before.Follows after where
  started := List.Subset.trans first.started second.started
  servers key listed :=
    (second.servers key (first.started listed)).trans (first.servers key listed)
  closed key listed gone := second.closed key (first.started listed) (first.closed key listed gone)

/-- A session that is no longer open is never open again. -/
theorem not_mem_opened (follows : before.Follows after) {key : Nat} (listed : key ∈ before.started)
    (gone : key ∉ before.opened) : key ∉ after.opened := by
  intro reopened
  have closed : (before.world.sessions.get key).closed = true := by
    by_contra still
    exact gone (World.mem_opened.mpr ⟨listed, by simpa using still⟩)
  have same := (World.mem_opened.mp reopened).2
  rw [follows.closed key listed closed] at same
  cases same

/-- A session goes on being called the same. -/
theorem lsid_eq (follows : before.Follows after) {key : Nat} (listed : key ∈ before.started) :
    after.lsid key = before.lsid key :=
  congrArg ServerSession.id (follows.servers key listed)

end Order

/-- What was closed changes nothing else about sessions. -/
theorem of_closed {ledger : Ledger} {closed : List Nat} {world : World}
    (done : World.Closed closed ledger.world world) : ledger.Follows { ledger with world } :=
  ⟨List.Subset.refl _, fun key _ => done.server key, fun _ _ gone => done.stays gone⟩

/-- What happens elsewhere leaves sessions alone. -/
theorem of_leavesAlone {ledger : Ledger} {world : World} (left : ledger.LeavesAlone world) :
    ledger.Follows { ledger with world } :=
  ⟨List.Subset.refl _, left.servers, fun key listed gone => (left.closed key listed).trans gone⟩

/-- A session that was started leaves the others alone. -/
theorem of_started {ledger : Ledger} {pool : Nat} {server : ServerSession} {world : World}
    (sound : ledger.Sound) (start : World.Started pool server ledger.world world) :
    ledger.Follows (addSession { ledger with world } ledger.world.nextKey) := by
  -- The new session has a number of its own.
  have same {key : Nat} (listed : key ∈ ledger.started) :
      world.sessions.get key = ledger.world.sessions.get key :=
    start.sessions key (Nat.ne_of_lt (sound.known key listed))
  refine ⟨List.subset_append_left _ _, fun key listed => ?_, fun key listed gone => ?_⟩
  · exact congrArg ClientSession.server (same listed)
  · exact (congrArg ClientSession.closed (same listed)).trans gone

section Moves

variable {α : Type} {ledger : Ledger} {among : List Nat} {work : Act α}

theorem withPlace {items : List α} {place : Nat} {use : α → Ledger}
    (each : ∀ item ∈ items, ledger.Follows (use item)) :
    ledger.Follows (ledger.withPlace items place use) := by
  simp only [Ledger.withPlace]
  split
  · exact .refl ledger
  · next item found => exact each item (List.mem_of_getElem? found)

theorem after (closes : Act.Closes among work) : ledger.Follows (ledger.after work) := by
  obtain ⟨closed, -, done⟩ := closes ledger.world
  exact .of_closed done

/-- Whatever note is taken of work that closes sessions, no session is concerned by the note. -/
theorem enter {note : Ledger → α → Ledger} (closes : Act.Closes among work)
    (noted : ∀ (later : Ledger) value, later.Follows (note later value)) :
    ledger.Follows (ledger.enter work note) := by
  have later : ledger.Follows (ledger.after work) := .after closes
  simp only [Ledger.enter, Ledger.after] at later ⊢
  rcases result : work ledger.world with ⟨halt | value, world⟩ <;> rw [result] at later
  · exact later
  · exact later.trans (noted _ value)

/-- A binding that is made leaves the sessions alone. -/
theorem addBinding {work : Act Binding} (closes : Act.Closes [] work) :
    ledger.Follows (ledger.enter work Ledger.addBinding) :=
  .enter closes fun _ _ => ⟨List.Subset.refl _, fun _ _ => rfl, fun _ _ gone => gone⟩

/-- A binding that is made under a session leaves the sessions alone. -/
theorem underSession (ledger : Ledger) (inner : Binding) (session : Nat) (owned : Bool) :
    ledger.Follows (ledger.enter (inner.underSession session owned) Ledger.addBinding) :=
  .addBinding <| .bind Act.closes_freshCount fun _ _ => .of_keeps (.pure _)

/-- No permitted move forgets a session, exchanges its server session or opens it again. -/
theorem perform (sound : ledger.Sound) {move : Move} (permitted : ledger.Permits move) :
    ledger.Follows (ledger.perform move) := by
  -- Only a start adds a session, alone or for a binding of its own; whatever else a move does
  -- closes some at most.
  cases move with
  | start pool causal =>
    obtain ⟨server, world, started, start⟩ := Act.startSession_apply pool causal ledger.world
    simp only [Ledger.perform, Ledger.enter, started]
    exact .of_started sound start
  | close place => exact .withPlace fun key _ => .after (Act.closes_closeSession key)
  | toCluster topology preference =>
    show ledger.Follows (ledger.enter (Binding.toCluster topology preference) Ledger.addBinding)
    exact .addBinding <| .bind Act.closes_freshCount fun _ _ => .of_keeps (.pure _)
  | underSession inside session owned =>
    exact .withPlace fun inner _ => .withPlace fun key _ => .underSession ledger inner key owned
  | underOwnSession inside pool =>
    refine .withPlace fun inner _ => ?_
    obtain ⟨server, world, start, same⟩ := ledger.enter_underOwnSession inner pool
    rw [same]
    exact (Follows.of_started sound start).trans (.underSession _ inner _ true)
  | retain place =>
    refine .withPlace fun binding _ => ?_
    have closes : Act.Closes [] binding.retain := Act.closes_retain _ _
    exact .after closes
  | release place => exact .withPlace fun binding _ => .after binding.closes_release
  | acquire place intent =>
    exact .withPlace fun binding _ => .enter (binding.closes_acquire intent)
      fun later _ => ⟨List.Subset.refl _, fun _ _ => rfl, fun _ _ gone => gone⟩
  | retainSource place =>
    refine .withPlace fun source _ => ?_
    have closes : Act.Closes [] source.retain := Act.closes_retain _ _
    exact .after closes
  | releaseSource place => exact .withPlace fun source _ => .after source.closes_release
  | elsewhere change => exact .of_leavesAlone permitted

end Moves

end Follows

/-- A ledger may go on in a world: it is sound there, and comes after what it was, and no server
session was made meanwhile. -/
structure Leads (ledger : Ledger) (world : World) : Prop where
  sound : Sound { ledger with world }
  follows : ledger.Follows { ledger with world }
  nextSession : world.nextSession = ledger.world.nextSession

end Ledger

/-- What a session keeps for good, and whether it is closed. -/
def ClientSession.identity (session : ClientSession) : ServerSession × Nat × Bool :=
  (session.server, session.pool, session.closed)

/-- A session that observes what it is told is the same session. -/
theorem ClientSession.identity_observe (session : ClientSession) (replies : List RawDocument) :
    (replies.foldl observe session).identity = session.identity := by
  induction replies generalizing session with
  | nil => rfl
  | cons reply rest ih =>
    -- A reply concerns the times alone.
    obtain ⟨seen, observed, -⟩ := session.observe_eq reply
    rw [List.foldl_cons, ih, observed]
    rfl

/-- A line whose session is still the same is put back without any session becoming another. -/
theorem World.identity_putLine (world : World) (connection key : Nat) {session : Option Nat}
    {line : Line} (same : line.session.map ClientSession.identity
      = session.map fun own => (world.sessions.get own).identity) :
    ((world.putLine connection session line).sessions.get key).identity
      = (world.sessions.get key).identity := by
  unfold putLine
  cases session with
  | none => rfl
  | some own =>
    obtain ⟨found, held, identity⟩ := Option.map_eq_some_iff.mp same
    simp only [held]
    -- Only the entry under the number of the session is put back.
    by_cases this : key = own
    · subst this
      simpa [Table.get, Table.get?_set] using identity
    · simp [Table.get, Table.get?_set, this]

/-- Work on a line that leaves the session of the line the same session. -/
abbrev Exchange.Loyal {α : Type} (work : Exchange α) : Prop :=
  Work.Keeps (fun line : Line => line.session.map ClientSession.identity) work

/-- A command leaves its session the same session. -/
theorem CommandCall.loyal_run {α : Type} (call : CommandCall) (decoder : Decoder α) :
    Exchange.Loyal (call.run decoder) := by
  intro line
  dsimp only
  rw [call.session_run decoder line, Option.map_map]
  refine congrArg (Option.map · line.session) (funext fun session => ?_)
  exact session.identity_observe _

namespace Act

variable {α β : Type} {among : List Nat}

/-- Work on a connection that hands the payload back is work on its line, which is put back. -/
theorem onLine_apply (connection : Nat) (session : Option Nat) (payload : Option Payload)
    (work : Exchange α) (world : World) :
    onLine connection session payload work world
      = (.ok ((work (world.line connection session payload)).1,
          (work (world.line connection session payload)).2.payload),
        world.putLine connection session (work (world.line connection session payload)).2) := rfl

/-- Work after which every sound ledger goes on, as long as the sessions that the work may close
were started in it. -/
def Lawful (among : List Nat) (work : Act α) : Prop :=
  ∀ ledger : Ledger, ledger.Sound → among ⊆ ledger.started → ledger.Leads (work ledger.world).2

namespace Lawful

/-- Work that closes sessions is lawful. -/
theorem of_closes {work : Act α} (closes : Closes among work) : Lawful among work := by
  intro ledger sound within
  obtain ⟨closed, listed, done⟩ := closes ledger.world
  exact ⟨sound.close done (List.Subset.trans listed within), .of_closed done, done.nextSession⟩

/-- Work that leaves sessions and pools alone is lawful. -/
theorem of_keeps {work : Act α} (kept : Work.Keeps World.stock work) : Lawful among work :=
  of_closes (.of_keeps kept)

/-- Work is lawful when both its parts are. -/
theorem bind {work : Act α} {next : α → Act β} (first : Lawful among work)
    (second : ∀ value, Yields work value → Lawful among (next value)) :
    Lawful among (work >>= next) := by
  intro ledger sound within
  have one := first ledger sound within
  rw [Work.bind_apply]
  rcases result : work ledger.world with ⟨halt | value, middle⟩ <;> rw [result] at one
  · exact one
  · have two := second value ⟨_, _, result⟩ { ledger with world := middle } one.sound within
    exact ⟨two.sound, one.follows.trans two.follows, two.nextSession.trans one.nextSession⟩

theorem attempt {work : Act α} (lawful : Lawful among work) : Lawful among (Act.attempt work) :=
  lawful

theorem resume (result : Except Halt α) : Lawful among (Act.resume result) :=
  of_closes (.resume result)

/-- Work on a connection, under a session that stays the same session, is lawful. -/
theorem onLine {work : Exchange α} (loyal : Exchange.Loyal work) (connection : Nat)
    (session : Option Nat) (payload : Option Payload) :
    Lawful among (Act.onLine connection session payload work) := by
  intro ledger sound _
  have kept : (work (ledger.world.line connection session payload)).2.session.map
      ClientSession.identity = session.map fun own => (ledger.world.sessions.get own).identity :=
    (loyal (ledger.world.line connection session payload)).trans (by cases session <;> rfl)
  rw [onLine_apply]
  -- The session is put back under its number, and all else that matters stays where it is.
  have same (key : Nat) := ledger.world.identity_putLine connection key kept
  have left : ledger.LeavesAlone (ledger.world.putLine connection session
      (work (ledger.world.line connection session payload)).2) :=
    ⟨fun key _ => congrArg (·.1) (same key), fun key _ => congrArg (·.2.2) (same key),
      fun _ => rfl, rfl, Nat.le_refl _⟩
  exact ⟨sound.elsewhere left, .of_leavesAlone left, rfl⟩

theorem exchange {work : Exchange α} (loyal : Exchange.Loyal work) (connection : Nat)
    (session : Option Nat) : Lawful among (Act.exchange connection session work) :=
  .bind (.onLine loyal connection session none) fun _ _ => .resume _

end Lawful

end Act

end DocWire
