import DocWire.Proofs.Session.Closing
import Mathlib.Algebra.Group.Nat.Defs
import Mathlib.Data.List.Nodup

/-! Runs of those who start and close sessions, and who make and give up bindings under them, in any
order: server sessions go from pools to sessions and back, and none of them is ever at two places.
-/

namespace DocWire

/-- Sixteen bytes tell apart as many sessions as they can count. -/
theorem ServerSession.eq_of_id {one other : ServerSession} (fits : one.number < 256 ^ 16)
    (otherFits : other.number < 256 ^ 16) (same : one.id = other.id) : one = other := by
  obtain ⟨number⟩ := one
  obtain ⟨otherNumber⟩ := other
  simp only [id, identifier, List.cons.injEq, Prod.mk.injEq, Value.binary.injEq, true_and, and_true,
    List.reverse_inj] at same
  -- What was written of the numbers is read back from the bytes.
  have number_eq := congrArg Bytes.toNat same
  rw [Bytes.toNat_ofNat 16 number fits, Bytes.toNat_ofNat 16 otherNumber otherFits] at number_eq
  rw [number_eq]

namespace World

/-- The server session behind a session. -/
def server (world : World) (key : Nat) : ServerSession := (world.sessions.get key).server

/-- Those of some sessions that are not closed. -/
def opened (world : World) (started : List Nat) : List Nat :=
  started.filter fun key => !(world.sessions.get key).closed

/-- The server sessions made so far have identifiers of their own. -/
def Identified (world : World) : Prop :=
  ∀ one other : ServerSession, one.number < world.nextSession → other.number < world.nextSession →
    one.id = other.id → one = other

/-- Identifiers differ as long as there are not more sessions than sixteen bytes can count. -/
theorem identified_of_le {world : World} (few : world.nextSession ≤ 256 ^ 16) : world.Identified :=
  fun _ _ one other =>
    ServerSession.eq_of_id (Nat.lt_of_lt_of_le one few) (Nat.lt_of_lt_of_le other few)

/-- Every server session is at one place: behind one open session, or in one pool, and there once.
-/
structure Apart (world : World) (started : List Nat) : Prop where
  serves : ∀ one ∈ world.opened started, ∀ other ∈ world.opened started,
    world.server one = world.server other → one = other
  busy : ∀ key ∈ world.opened started, ∀ pool, world.server key ∉ world.idle pool
  once : ∀ pool, (world.idle pool).Nodup
  home : ∀ one other, ∀ server ∈ world.idle one, server ∈ world.idle other → one = other
  made : ∀ key ∈ world.opened started, (world.server key).number < world.nextSession
  kept : ∀ pool, ∀ server ∈ world.idle pool, server.number < world.nextSession

variable {before after : World} {started closed : List Nat}

theorem mem_opened {world : World} {key : Nat} :
    key ∈ world.opened started ↔ key ∈ started ∧ (world.sessions.get key).closed = false := by
  simp [opened]

namespace Closed

/-- A session stays with its server session when it is closed. -/
theorem server (done : Closed closed before after) (key : Nat) :
    after.server key = before.server key := by
  simp only [World.server, done.sessions]

/-- Open is what was open and was not closed. -/
theorem mem_opened (done : Closed closed before after) {key : Nat} :
    key ∈ after.opened started ↔ key ∈ before.opened started ∧ key ∉ closed := by
  simp [World.mem_opened, done.sessions, and_assoc]

/-- Only open sessions were closed. -/
theorem subset_opened (done : Closed closed before after) (within : closed ⊆ started) :
    closed ⊆ before.opened started := fun key member =>
  World.mem_opened.mpr ⟨within member, done.wereOpen key member⟩

/-- A pool holds what it held, and what went back to it. -/
theorem mem_idle (done : Closed closed before after) {pool : Nat} {server : ServerSession} :
    server ∈ after.idle pool ↔
      (∃ key ∈ closed, (before.sessions.get key).pool = pool ∧ before.server key = server) ∨
        server ∈ before.idle pool := by
  simp [done.idle, returns, World.server, and_assoc]

end Closed

/-- What is closed goes to one place, so that nothing comes to be at two. -/
theorem Apart.close (apart : before.Apart started) (done : Closed closed before after)
    (within : closed ⊆ started) : after.Apart started := by
  -- All that was closed was open before, and so is all that is still open.
  have wereOpen := done.subset_opened within
  have still {key : Nat} (member : key ∈ after.opened started) : key ∈ before.opened started :=
    (done.mem_opened.mp member).1
  refine ⟨fun one first other second same => ?_, fun key member pool idle => ?_, fun pool => ?_,
    fun one other server here there => ?_, fun key member => ?_, fun pool server idle => ?_⟩
  · rw [done.server, done.server] at same
    exact apart.serves one (still first) other (still second) same
  · -- What is idle now was idle before, or was given back by a session that is closed now.
    rw [done.server] at idle
    rcases done.mem_idle.mp idle with ⟨other, gone, -, same⟩ | earlier
    · obtain rfl := apart.serves other (wereOpen gone) key (still member) same
      exact (done.mem_opened.mp member).2 gone
    · exact apart.busy key (still member) pool earlier
  · rw [done.idle]
    refine List.nodup_append.mpr ⟨?_, apart.once pool, ?_⟩
    · refine List.Nodup.map_on ?_ (done.distinct.filter _)
      intro one first other second same
      exact apart.serves one (wereOpen (List.mem_of_mem_filter first)) other
        (wereOpen (List.mem_of_mem_filter second)) same
    · rintro server returned _ earlier rfl
      obtain ⟨key, gone, rfl⟩ := List.mem_map.mp returned
      exact apart.busy key (wereOpen (List.mem_of_mem_filter gone)) pool earlier
  · rcases done.mem_idle.mp here with ⟨key, gone, rfl, rfl⟩ | earlier
    · rcases done.mem_idle.mp there with ⟨twin, goneToo, rfl, same⟩ | earlier
      · rw [apart.serves twin (wereOpen goneToo) key (wereOpen gone) same]
      · exact (apart.busy key (wereOpen gone) other earlier).elim
    · rcases done.mem_idle.mp there with ⟨key, gone, rfl, rfl⟩ | earlierToo
      · exact (apart.busy key (wereOpen gone) one earlier).elim
      · exact apart.home one other server earlier earlierToo
  · rw [done.server, done.nextSession]
    exact apart.made key (still member)
  · rw [done.nextSession]
    rcases done.mem_idle.mp idle with ⟨key, gone, -, rfl⟩ | earlier
    · exact apart.made key (wereOpen gone)
    · exact apart.kept pool server earlier

/-- A session was started under the number that came next. Its server session is the first of those
idle in the pool, or a new one when there was none. -/
structure Started (pool : Nat) (server : ServerSession) (before after : World) : Prop where
  sessions : ∀ key, key ≠ before.nextKey → after.sessions.get key = before.sessions.get key
  serves : after.server before.nextKey = server
  nextKey : after.nextKey = before.nextKey + 1
  idle : ∀ other, other ≠ pool → after.idle other = before.idle other
  taken : before.idle pool = server :: after.idle pool ∧ after.nextSession = before.nextSession ∨
    before.idle pool = [] ∧ after.idle pool = [] ∧ server = ⟨before.nextSession⟩ ∧
      after.nextSession = before.nextSession + 1

namespace Started

variable {pool : Nat} {server : ServerSession}

/-- A start adds nothing to any pool. -/
theorem sublist (start : Started pool server before after) (other : Nat) :
    (after.idle other).Sublist (before.idle other) := by
  -- The pool that the session comes from loses at most its first, and the others lose nothing.
  by_cases same : other = pool
  · subst same
    rcases start.taken with ⟨front, -⟩ | ⟨was, is, -⟩
    · rw [front]
      exact List.sublist_cons_self _ _
    · rw [was, is]
  · rw [start.idle other same]

/-- A start makes at most one server session. -/
theorem nextSession_le (start : Started pool server before after) :
    before.nextSession ≤ after.nextSession := by
  rcases start.taken with ⟨-, same⟩ | ⟨-, -, -, more⟩ <;> omega

/-- What a session starts with is made. -/
theorem made (start : Started pool server before after) (apart : before.Apart started) :
    server.number < after.nextSession := by
  -- It was kept in a pool, or it is the one that was made just now.
  rcases start.taken with ⟨front, same⟩ | ⟨-, -, rfl, more⟩
  · rw [same]
    exact apart.kept pool server (by simp [front])
  · rw [more]
    exact Nat.lt_succ_self _

/-- What a session starts with is idle no longer. -/
theorem notIdle (start : Started pool server before after) (apart : before.Apart started)
    (other : Nat) : server ∉ after.idle other := by
  intro idle
  have earlier := (start.sublist other).subset idle
  rcases start.taken with ⟨front, -⟩ | ⟨-, -, rfl, -⟩
  · -- It was the first of this pool, so it was in no other, and here but once.
    obtain rfl := apart.home pool other server (by simp [front]) earlier
    have once := apart.once pool
    rw [front] at once
    exact (List.nodup_cons.mp once).1 idle
  · exact Nat.lt_irrefl _ (apart.kept other _ earlier)

/-- What a session starts with is behind no other open session. -/
theorem notServing (start : Started pool server before after) (apart : before.Apart started)
    {key : Nat} (member : key ∈ before.opened started) : before.server key ≠ server := by
  -- It was idle, and nothing idle is busy, or it was not yet made.
  rintro rfl
  rcases start.taken with ⟨front, -⟩ | ⟨-, -, new, -⟩
  · exact apart.busy key member pool (by simp [front])
  · have := apart.made key member
    rw [new] at this
    exact Nat.lt_irrefl _ this

end Started

/-- What starts is taken from its place, so that nothing comes to be at two. -/
theorem Apart.start {pool : Nat} {server : ServerSession} (apart : before.Apart started)
    (start : Started pool server before after) (known : ∀ key ∈ started, key < before.nextKey) :
    after.Apart (started ++ [before.nextKey]) := by
  -- Open is what was open, with the server session it had, or the session that starts.
  have opened {key : Nat} (member : key ∈ after.opened (started ++ [before.nextKey])) :
      (key ∈ before.opened started ∧ after.server key = before.server key) ∨
        (key = before.nextKey ∧ after.server key = server) := by
    obtain ⟨listed, usable⟩ := mem_opened.mp member
    rcases List.mem_append.mp listed with old | new
    · have same := start.sessions key (Nat.ne_of_lt (known key old))
      rw [same] at usable
      exact .inl ⟨mem_opened.mpr ⟨old, usable⟩, congrArg ClientSession.server same⟩
    · obtain rfl := List.mem_singleton.mp new
      exact .inr ⟨rfl, start.serves⟩
  refine ⟨fun one first other second same => ?_, fun key member pool idle => ?_,
    fun pool => (start.sublist pool).nodup (apart.once pool), fun one other server here there => ?_,
    fun key member => ?_, fun pool server idle => ?_⟩
  · rcases opened first with ⟨old, eq⟩ | ⟨rfl, eq⟩ <;>
      rcases opened second with ⟨oldToo, eqToo⟩ | ⟨rfl, eqToo⟩
    · exact apart.serves one old other oldToo (eq.symm.trans (same.trans eqToo))
    · exact (start.notServing apart old (eq.symm.trans (same.trans eqToo))).elim
    · exact (start.notServing apart oldToo (eqToo.symm.trans (same.symm.trans eq))).elim
    · rfl
  · rcases opened member with ⟨old, eq⟩ | ⟨rfl, eq⟩ <;> rw [eq] at idle
    · exact apart.busy key old pool ((start.sublist pool).subset idle)
    · exact start.notIdle apart pool idle
  · exact apart.home one other server ((start.sublist one).subset here)
      ((start.sublist other).subset there)
  · rcases opened member with ⟨old, eq⟩ | ⟨rfl, eq⟩ <;> rw [eq]
    · exact Nat.lt_of_lt_of_le (apart.made key old) start.nextSession_le
    · exact start.made apart
  · exact Nat.lt_of_lt_of_le (apart.kept pool server ((start.sublist pool).subset idle))
      start.nextSession_le

end World

/-- A session can always be started. -/
theorem Act.startSession_apply (pool : Nat) (causal : Bool) (world : World) :
    ∃ server after, startSession pool causal world = (.ok world.nextKey, after) ∧
      World.Started pool server world after := by
  -- An empty pool has a server session made for it, and any other gives its first.
  cases idle : (world.pools.get pool).idle with
  | nil =>
    refine ⟨⟨world.nextSession⟩, { world with
      nextSession := world.nextSession + 1
      nextKey := world.nextKey + 1
      sessions := world.sessions.set world.nextKey
        { server := ⟨world.nextSession⟩, pool, causal } }, ?_, fun key other => ?_, ?_, rfl,
      fun _ _ => rfl, .inr ⟨idle, idle, rfl, rfl⟩⟩
    · simp [startSession, checkOut, SessionPool.checkOut, idle, freshKey]
    · simp [Table.get, Table.get?_set, other]
    · simp [World.server, Table.get, Table.get?_set]
  | cons server rest =>
    refine ⟨server, { world with
      pools := world.pools.set pool ⟨rest⟩
      nextKey := world.nextKey + 1
      sessions := world.sessions.set world.nextKey { server, pool, causal } }, ?_,
      fun key other => ?_, ?_, rfl, fun other apart => ?_, .inl ⟨?_, rfl⟩⟩
    · simp [startSession, checkOut, SessionPool.checkOut, idle, freshKey]
    · simp [Table.get, Table.get?_set, other]
    · simp [World.server, Table.get, Table.get?_set]
    · simp [World.idle, Table.get, Table.get?_set, apart]
    · simp only [World.idle, idle]
      simp [Table.get, Table.get?_set]

end DocWire
