import DocWire.Proofs.Session.Recycling

/-! Runs of those who start and close sessions, and who make, borrow from and give up bindings under
them, in any order. Along every such run an open session has its server session for itself, and what
was closed is never closed again. -/

namespace DocWire

/-- The world, the sessions that were started in it, open or not, and the bindings and sources that
were made, held or not. -/
structure Ledger where
  world : World
  started : List Nat := []
  bindings : List Binding := []
  sources : List Source := []

namespace Ledger

/-- What is asked of the library, in terms of what was made before. Nothing keeps the moves from
closing and releasing what is gone already. -/
inductive Move where
  | start (pool : Nat) (causal : Bool)
  | close (place : Nat)
  | toCluster (topology : Nat) (preference : ReadPreference)
  | underSession (inside session : Nat) (owned : Bool)
  | underOwnSession (inside pool : Nat)
  | retain (place : Nat)
  | release (place : Nat)
  | acquire (place : Nat) (intent : Intent)
  | retainSource (place : Nat)
  | releaseSource (place : Nat)
  | elsewhere (change : World → World)

variable {α : Type}

/-- The ledger after work on the world. -/
def after (ledger : Ledger) (work : Act α) : Ledger :=
  { ledger with world := (work ledger.world).2 }

/-- The ledger after work of which note is taken when something came of it. -/
def enter (ledger : Ledger) (work : Act α) (note : Ledger → α → Ledger) : Ledger :=
  match work ledger.world with
  | (.ok value, world) => note { ledger with world } value
  | (.error _, world) => { ledger with world }

/-- The ledger after something was done with what stands at a place, if anything does. -/
def withPlace (ledger : Ledger) (items : List α) (place : Nat) (use : α → Ledger) : Ledger :=
  match items[place]? with
  | none => ledger
  | some item => use item

/-- The ledger with one more session. -/
def addSession (ledger : Ledger) (key : Nat) : Ledger :=
  { ledger with started := ledger.started ++ [key] }

/-- The ledger with one more binding. -/
def addBinding (ledger : Ledger) (binding : Binding) : Ledger :=
  { ledger with bindings := ledger.bindings ++ [binding] }

/-- The ledger with one more source. -/
def addSource (ledger : Ledger) (source : Source) : Ledger :=
  { ledger with sources := ledger.sources ++ [source] }

/-- The ledger with one more binding and the session that was started for it. -/
def addOwnBinding (ledger : Ledger) (binding : Binding) : Ledger :=
  -- The binding hands out its session, which others may then close.
  match binding.sessionUse with
  | some use => (ledger.addSession use.session).addBinding binding
  | none => ledger.addBinding binding

/-- The ledger after a move. -/
def perform (ledger : Ledger) : Move → Ledger
  | .start pool causal => ledger.enter (Act.startSession pool causal) addSession
  | .close place =>
    ledger.withPlace ledger.started place fun key => ledger.after (Act.closeSession key)
  | .toCluster topology preference =>
    ledger.enter (Binding.toCluster topology preference) addBinding
  | .underSession inside session owned =>
    ledger.withPlace ledger.bindings inside fun inner =>
      ledger.withPlace ledger.started session fun key =>
        ledger.enter (inner.underSession key owned) addBinding
  | .underOwnSession inside pool =>
    ledger.withPlace ledger.bindings inside fun inner =>
      ledger.enter (inner.underOwnSession pool) addOwnBinding
  | .retain place =>
    ledger.withPlace ledger.bindings place fun binding => ledger.after binding.retain
  | .release place =>
    ledger.withPlace ledger.bindings place fun binding => ledger.after binding.release
  | .acquire place intent =>
    ledger.withPlace ledger.bindings place fun binding =>
      ledger.enter (binding.acquire intent) addSource
  | .retainSource place =>
    ledger.withPlace ledger.sources place fun source => ledger.after source.retain
  | .releaseSource place =>
    ledger.withPlace ledger.sources place fun source => ledger.after source.release
  | .elsewhere change => { ledger with world := change ledger.world }

/-- What may happen elsewhere: the times of sessions may advance, and counts, connections and the
network change as they like, but nobody else starts or closes a session. -/
structure LeavesAlone (ledger : Ledger) (after : World) : Prop where
  servers : ∀ key ∈ ledger.started, after.server key = ledger.world.server key
  closed : ∀ key ∈ ledger.started,
    (after.sessions.get key).closed = (ledger.world.sessions.get key).closed
  idle : ∀ pool, after.idle pool = ledger.world.idle pool
  nextSession : after.nextSession = ledger.world.nextSession
  nextKey : ledger.world.nextKey ≤ after.nextKey

/-- Whether a move is allowed: only what happens elsewhere is under a condition. -/
def Permits (ledger : Ledger) : Move → Prop
  | .elsewhere change => ledger.LeavesAlone (change ledger.world)
  | _ => True

/-- The ledger after moves, one after another. -/
def run (ledger : Ledger) (moves : List Move) : Ledger := moves.foldl perform ledger

/-- Whether each of the moves is allowed when it is made. -/
def PermitsAll (ledger : Ledger) : List Move → Prop
  | [] => True
  | move :: rest => ledger.Permits move ∧ (ledger.perform move).PermitsAll rest

/-- The sessions that were started and are not closed. -/
def opened (ledger : Ledger) : List Nat := ledger.world.opened ledger.started

/-- What a session is called in commands. -/
def lsid (ledger : Ledger) (key : Nat) : Document := (ledger.world.server key).id

/-- What the sessions idle in a pool are called in commands. -/
def pooled (ledger : Ledger) (pool : Nat) : List Document :=
  (ledger.world.idle pool).map ServerSession.id

/-- A ledger is sound when sessions have numbers of their own, bindings and sources run under
sessions that were started, and every server session is at one place. -/
structure Sound (ledger : Ledger) : Prop where
  distinct : ledger.started.Nodup
  known : ∀ key ∈ ledger.started, key < ledger.world.nextKey
  bindings : ∀ binding ∈ ledger.bindings, binding.sessions ⊆ ledger.started
  sources : ∀ source ∈ ledger.sources, source.sessions ⊆ ledger.started
  apart : ledger.world.Apart ledger.started

/-- A binding with a session of its own is made as if the session was started first, and the binding
was made under it then. -/
theorem enter_underOwnSession (ledger : Ledger) (inner : Binding) (pool : Nat) :
    ∃ server world, World.Started pool server ledger.world world ∧
      ledger.enter (inner.underOwnSession pool) addOwnBinding
        = (addSession { ledger with world } ledger.world.nextKey).enter
          (inner.underSession ledger.world.nextKey true) Ledger.addBinding := by
  obtain ⟨server, world, started, start⟩ := Act.startSession_apply pool false ledger.world
  refine ⟨server, world, start, ?_⟩
  simp [Ledger.enter, Binding.underOwnSession, Binding.underSession, started,
    Act.freshCount_apply, addOwnBinding, Binding.sessionUse, addSession]

namespace Sound

variable {ledger : Ledger}

/-- Where there are no sessions yet and the pools are empty, all is sound. -/
theorem initial {world : World} (empty : ∀ pool, world.idle pool = []) :
    Sound { world } := by
  refine ⟨.nil, by simp, by simp, by simp, ?_⟩
  constructor <;> simp [World.opened, empty]

/-- A world that something was closed in is as sound as before. -/
theorem close (sound : ledger.Sound) {closed : List Nat} {after : World}
    (done : World.Closed closed ledger.world after) (within : closed ⊆ ledger.started) :
    Sound { ledger with world := after } where
  distinct := sound.distinct
  known key member := Nat.lt_of_lt_of_le (sound.known key member) done.nextKey
  bindings := sound.bindings
  sources := sound.sources
  apart := sound.apart.close done within

/-- Work that closes sessions keeps a ledger sound. -/
theorem after (sound : ledger.Sound) {among : List Nat} {work : Act α}
    (closes : Act.Closes among work) (within : among ⊆ ledger.started) :
    (ledger.after work).Sound := by
  obtain ⟨closed, listed, done⟩ := closes ledger.world
  exact sound.close done (List.Subset.trans listed within)

/-- What is done with things of the ledger keeps it sound when it does so with each of them. -/
theorem withPlace (sound : ledger.Sound) {items : List α} {place : Nat} {use : α → Ledger}
    (each : ∀ item ∈ items, (use item).Sound) : (ledger.withPlace items place use).Sound := by
  simp only [Ledger.withPlace]
  split
  · exact sound
  · next item found => exact each item (List.mem_of_getElem? found)

/-- Work of which note is taken keeps a ledger sound when the note does. -/
theorem enter (sound : ledger.Sound) {among : List Nat} {work : Act α} {note : Ledger → α → Ledger}
    (closes : Act.Closes among work) (within : among ⊆ ledger.started)
    (noted : ∀ value, Act.Yields work value → ∀ later : Ledger, later.Sound →
      later.started = ledger.started → (note later value).Sound) :
    (ledger.enter work note).Sound := by
  -- Where nothing came of the work, what it closed is all that has changed.
  have later := sound.after closes within
  simp only [Ledger.enter, Ledger.after] at later ⊢
  rcases result : work ledger.world with ⟨halt | value, world⟩
  · rw [result] at later
    exact later
  · rw [result] at later
    exact noted value ⟨ledger.world, world, result⟩ _ later rfl

/-- A binding under known sessions keeps a ledger sound. -/
theorem addBinding (sound : ledger.Sound) {binding : Binding}
    (known : binding.sessions ⊆ ledger.started) : (ledger.addBinding binding).Sound where
  distinct := sound.distinct
  known := sound.known
  bindings one member := by
    rcases List.mem_append.mp member with old | new
    · exact sound.bindings one old
    · rwa [List.mem_singleton.mp new]
  sources := sound.sources
  apart := sound.apart

/-- A source of known bindings keeps a ledger sound. -/
theorem addSource (sound : ledger.Sound) {source : Source}
    (known : source.sessions ⊆ ledger.started) : (ledger.addSource source).Sound where
  distinct := sound.distinct
  known := sound.known
  bindings := sound.bindings
  sources one member := by
    rcases List.mem_append.mp member with old | new
    · exact sound.sources one old
    · rwa [List.mem_singleton.mp new]
  apart := sound.apart

/-- A session that was started keeps a ledger sound. -/
theorem start (sound : ledger.Sound) {pool : Nat} {server : ServerSession} {after : World}
    (start : World.Started pool server ledger.world after) :
    (addSession { ledger with world := after } ledger.world.nextKey).Sound where
  -- The key of the new session was spent for nobody before.
  distinct := by
    refine List.nodup_append.mpr ⟨sound.distinct, by simp, ?_⟩
    rintro key old _ new rfl
    obtain rfl := List.mem_singleton.mp new
    exact Nat.lt_irrefl _ (sound.known _ old)
  known key member := by
    simp only [addSession, start.nextKey]
    rcases List.mem_append.mp member with old | new
    · exact Nat.lt_succ_of_lt (sound.known key old)
    · rw [List.mem_singleton.mp new]
      exact Nat.lt_succ_self _
  bindings binding member :=
    List.Subset.trans (sound.bindings binding member) (List.subset_append_left _ _)
  sources source member :=
    List.Subset.trans (sound.sources source member) (List.subset_append_left _ _)
  apart := sound.apart.start start sound.known

/-- A binding under a session that was started keeps a ledger sound. -/
theorem underSession (sound : ledger.Sound) {inner : Binding} {session : Nat} (owned : Bool)
    (known : inner.sessions ⊆ ledger.started) (listed : session ∈ ledger.started) :
    (ledger.enter (inner.underSession session owned) Ledger.addBinding).Sound := by
  -- The new count is all that changes in the world.
  refine sound.enter (.bind Act.closes_freshCount fun _ _ => .of_keeps (.pure _))
    (List.nil_subset _) fun binding made later sound same => sound.addBinding ?_
  obtain ⟨_, _, made⟩ := made
  obtain ⟨_, _, -, made⟩ := Work.bind_ok made
  cases made
  rw [same]
  exact List.cons_subset.mpr ⟨listed, known⟩

/-- A binding with a session of its own keeps a ledger sound. -/
theorem underOwnSession (sound : ledger.Sound) {inner : Binding} (pool : Nat)
    (known : inner.sessions ⊆ ledger.started) :
    (ledger.enter (inner.underOwnSession pool) addOwnBinding).Sound := by
  obtain ⟨server, world, start, same⟩ := ledger.enter_underOwnSession inner pool
  rw [same]
  exact (sound.start start).underSession true
    (List.Subset.trans known (List.subset_append_left _ _)) (by simp [addSession])

/-- What happens elsewhere keeps a ledger sound. -/
theorem elsewhere (sound : ledger.Sound) {after : World} (left : ledger.LeavesAlone after) :
    Sound { ledger with world := after } := by
  -- The sessions of the ledger are open where they were, with the server sessions they had.
  have opened : after.opened ledger.started = ledger.world.opened ledger.started :=
    List.filter_congr fun key member => by rw [left.closed key member]
  have server {key : Nat} (member : key ∈ after.opened ledger.started) :
      after.server key = ledger.world.server key :=
    left.servers key (World.mem_opened.mp member).1
  have apart := sound.apart
  refine ⟨sound.distinct, fun key member => ?_, sound.bindings, sound.sources, ?_⟩
  · exact Nat.lt_of_lt_of_le (sound.known key member) left.nextKey
  refine ⟨fun one first other second same => ?_, fun key member pool => ?_, fun pool => ?_, ?_,
    fun key member => ?_, ?_⟩
  · rw [server first, server second] at same
    exact apart.serves one (opened ▸ first) other (opened ▸ second) same
  · rw [server member, left.idle]
    exact apart.busy key (opened ▸ member) pool
  · rw [left.idle]
    exact apart.once pool
  · simpa only [left.idle] using apart.home
  · rw [server member, left.nextSession]
    exact apart.made key (opened ▸ member)
  · simpa only [left.idle, left.nextSession] using apart.kept

/-- A permitted move keeps a ledger sound. -/
theorem perform (sound : ledger.Sound) {move : Move} (permitted : ledger.Permits move) :
    (ledger.perform move).Sound := by
  cases move with
  | start pool causal =>
    obtain ⟨server, world, started, start⟩ := Act.startSession_apply pool causal ledger.world
    simp only [Ledger.perform, Ledger.enter, started]
    exact sound.start start
  | close place =>
    refine sound.withPlace fun key listed => ?_
    exact sound.after (Act.closes_closeSession key) (by simpa using listed)
  | toCluster topology preference =>
    show (ledger.enter (Binding.toCluster topology preference) Ledger.addBinding).Sound
    refine sound.enter (.bind Act.closes_freshCount fun _ _ => .of_keeps (.pure _))
      (List.nil_subset _) fun binding made later sound _ => sound.addBinding ?_
    -- There is no session in a binding to a cluster.
    obtain ⟨_, _, made⟩ := made
    obtain ⟨_, _, -, made⟩ := Work.bind_ok made
    cases made
    exact List.nil_subset _
  | underSession inside session owned =>
    refine sound.withPlace fun inner found => sound.withPlace fun key listed => ?_
    exact sound.underSession owned (sound.bindings inner found) listed
  | underOwnSession inside pool =>
    refine sound.withPlace fun inner found => ?_
    exact sound.underOwnSession pool (sound.bindings inner found)
  | retain place =>
    refine sound.withPlace fun binding _ => ?_
    exact sound.after (Act.closes_retain _ _) (List.nil_subset _)
  | release place =>
    refine sound.withPlace fun binding found => ?_
    exact sound.after binding.closes_release (sound.bindings binding found)
  | acquire place intent =>
    refine sound.withPlace fun binding found => ?_
    have known := sound.bindings binding found
    refine sound.enter (binding.closes_acquire intent) known fun source lent later sound same =>
      sound.addSource ?_
    rw [same]
    exact List.Subset.trans (Binding.sessions_acquire lent) known
  | retainSource place =>
    refine sound.withPlace fun source _ => ?_
    exact sound.after (Act.closes_retain _ _) (List.nil_subset _)
  | releaseSource place =>
    refine sound.withPlace fun source found => ?_
    exact sound.after source.closes_release (sound.sources source found)
  | elsewhere change => exact sound.elsewhere permitted

/-- A run of permitted moves keeps a ledger sound. -/
theorem run (sound : ledger.Sound) {moves : List Move} (permitted : ledger.PermitsAll moves) :
    (ledger.run moves).Sound := by
  induction moves generalizing ledger with
  | nil => exact sound
  | cons move rest ih => exact ih (sound.perform permitted.1) permitted.2

/-- No two open sessions are called the same. -/
theorem nodup_lsids (sound : ledger.Sound) (identified : ledger.world.Identified) :
    (ledger.opened.map ledger.lsid).Nodup := by
  -- Sessions that are called the same have the same server session, and that serves but one.
  refine List.Nodup.map_on (fun one first other second same => ?_) (sound.distinct.filter _)
  have apart := sound.apart
  exact apart.serves one first other second
    (identified _ _ (apart.made one first) (apart.made other second) same)

/-- No two sessions in a pool are called the same. -/
theorem nodup_pooled (sound : ledger.Sound) (identified : ledger.world.Identified) (pool : Nat) :
    (ledger.pooled pool).Nodup := by
  refine List.Nodup.map_on (fun one first other second same => ?_) (sound.apart.once pool)
  exact identified one other (sound.apart.kept pool one first) (sound.apart.kept pool other second)
    same

/-- No open session is called like one in a pool. -/
theorem lsid_not_mem_pooled (sound : ledger.Sound) (identified : ledger.world.Identified)
    {key : Nat} (member : key ∈ ledger.opened) (pool : Nat) :
    ledger.lsid key ∉ ledger.pooled pool := by
  -- A session of the pool that is called the same would be the busy one.
  intro idle
  obtain ⟨server, waits, same⟩ := List.mem_map.mp idle
  obtain rfl := identified _ _ (sound.apart.kept pool server waits) (sound.apart.made key member)
    same
  exact sound.apart.busy key member pool waits

end Sound

/-- Along every run of those who start and close sessions, and who make, borrow from and give up
bindings under them, open sessions differ in what they are called from one another and from those
idle in a pool, and a pool holds none twice. Whoever closes an open session gives exactly its server
session back to its pool, be it the caller or the last release of a binding that owns the session;
and whoever closes it again fails, without any effect on the pools or on other sessions: a binding
that fails so merely gives up the binding inside. Whatever else a release comes to close, all of it
was open, and each gives back its own server session. -/
theorem serverSessions_of_run {world : World} {moves : List Move}
    (empty : ∀ pool, world.idle pool = [])
    (permitted : PermitsAll { world } moves)
    (identified : (run { world } moves).world.Identified) :
    let ledger := run { world } moves
    (ledger.opened.map ledger.lsid).Nodup ∧
    (∀ pool, (ledger.pooled pool).Nodup ∧
      ∀ key ∈ ledger.opened, ledger.lsid key ∉ ledger.pooled pool) ∧
    (∀ key ∈ ledger.started,
      (key ∈ ledger.opened → ∃ after, Act.closeSession key ledger.world = (.ok (), after) ∧
        World.Closed [key] ledger.world after) ∧
      (key ∉ ledger.opened → Act.closeSession key ledger.world
        = (.error (.ofCause (.lifecycle .sessionClosedTwice)), ledger.world))) ∧
    (∀ count inner key claimed, .session count inner key true ∈ ledger.bindings →
      Act.release count .sessionBinding ledger.world = (.ok true, claimed) →
      let released := (Binding.session count inner key true).release ledger.world
      (key ∈ ledger.opened → ∃ after, World.Closed [key] ledger.world after ∧
        released = inner.release after) ∧
      (key ∉ ledger.opened → ∃ after, World.Closed [] ledger.world after ∧
        released = (.error (.ofCause (.lifecycle .sessionClosedTwice)), (inner.release after).2) ∧
        ∃ closed ⊆ inner.sessions, World.Closed closed ledger.world released.2)) ∧
    (∀ binding ∈ ledger.bindings, ∃ closed ⊆ ledger.opened,
      World.Closed closed ledger.world (binding.release ledger.world).2) ∧
    ∀ source ∈ ledger.sources, ∃ closed ⊆ ledger.opened,
      World.Closed closed ledger.world (source.release ledger.world).2 := by
  intro ledger
  have sound : ledger.Sound := (Sound.initial empty).run permitted
  have usable {key : Nat} (member : key ∈ ledger.opened) :
      (ledger.world.sessions.get key).closed = false := (World.mem_opened.mp member).2
  have done {key : Nat} (listed : key ∈ ledger.started) (gone : key ∉ ledger.opened) :
      (ledger.world.sessions.get key).closed = true := by
    by_contra still
    exact gone (World.mem_opened.mpr ⟨listed, by simpa using still⟩)
  refine ⟨sound.nodup_lsids identified,
    fun pool => ⟨sound.nodup_pooled identified pool,
      fun key member => sound.lsid_not_mem_pooled identified member pool⟩,
    fun key listed => ⟨fun member => Act.closeSession_open (usable member),
      fun gone => Act.closeSession_closed (done listed gone)⟩,
    fun count inner key claimed made last => ⟨fun member =>
      inner.release_last_open last (usable member), fun gone => ?_⟩,
    fun binding made => ?_, fun source made => ?_⟩
  · have listed : key ∈ ledger.started := sound.bindings _ made (List.mem_cons_self ..)
    obtain ⟨after, kept, failed⟩ := inner.release_last_closed last (done listed gone)
    refine ⟨after, kept, failed, ?_⟩
    -- Only the binding inside has anything left to close.
    obtain ⟨closed, within, later⟩ := inner.closes_release after
    refine ⟨closed, within, ?_⟩
    rw [failed]
    simpa using kept.trans later
  · obtain ⟨closed, within, ends⟩ := binding.closes_release ledger.world
    have known := List.Subset.trans within (sound.bindings binding made)
    exact ⟨closed, ends.subset_opened known, ends⟩
  · obtain ⟨closed, within, ends⟩ := source.closes_release ledger.world
    have known := List.Subset.trans within (sound.sources source made)
    exact ⟨closed, ends.subset_opened known, ends⟩

/-- A session that a binding owns was closed by somebody else: its server session waits in the pool,
the other session stays open, and the last release of the binding fails and changes neither. -/
theorem serverSessions_of_run_closed :
    let ledger := run { world := {} }
      [.start 0 false, .toCluster 0 .primary, .underOwnSession 0 0, .close 1]
    let released := (Binding.session 3 (.cluster 1 0 .primary) 2 true).release ledger.world
    ledger.opened = [0] ∧ ledger.world.idle 0 = [⟨1⟩] ∧ ledger.lsid 0 ∉ ledger.pooled 0 ∧
      released.1 = .error (.ofCause (.lifecycle .sessionClosedTwice)) ∧
      World.Closed [] ledger.world released.2 := by
  intro ledger released
  have opened : ledger.opened = [0] := by decide +kernel
  have permitted : PermitsAll { world := {} }
      [.start 0 false, .toCluster 0 .primary, .underOwnSession 0 0, .close 1] :=
    ⟨trivial, trivial, trivial, trivial, trivial⟩
  have identified : ledger.world.Identified := World.identified_of_le (by decide +kernel)
  obtain ⟨-, pools, -, owners, -⟩ := serverSessions_of_run (fun _ => rfl) permitted identified
  -- The binding still stands in the ledger, with the session that it owns.
  have made : .session 3 (.cluster 1 0 .primary) 2 true ∈ ledger.bindings :=
    List.mem_cons_of_mem _ (List.mem_cons_self ..)
  obtain ⟨-, failing⟩ := owners 3 (.cluster 1 0 .primary) 2 _ made rfl
  obtain ⟨after, -, failed, closed, within, kept⟩ := failing (by rw [opened]; decide)
  refine ⟨opened, by decide +kernel, (pools 0).2 0 (by rw [opened]; decide),
    congrArg Prod.fst failed, ?_⟩
  obtain rfl := List.subset_nil.mp within
  exact kept

end Ledger
end DocWire
