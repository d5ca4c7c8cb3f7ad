import DocWire.Binding.Basic
import DocWire.Proofs.Work

/-! Counts in the world: what taking and giving up references does to them, one number at a time. -/

namespace DocWire

/-- The count while some references are held: it is torn down when there are none. -/
def References.held (number : Nat) : References := ⟨number, number == 0⟩

namespace References

@[simp] theorem count_held (number : Nat) : (held number).count = number := rfl

/-- Whoever finds references held can take one more. -/
theorem retain_held (number : Nat) (what : Counted) :
    (held (number + 1)).retain what = .ok (held (number + 2)) := by
  -- As long as anything is held, the latch is open.
  simp [retain, held]

/-- Nobody takes a reference to what is gone. -/
theorem retain_gone (what : Counted) :
    (held 0).retain what = .error (.retainedAfterRelease what) := rfl

/-- A reference that is held can be given up, and the last one claims the teardown. -/
theorem release_held (number : Nat) (what : Counted) :
    (held (number + 1)).release what = .ok (number == 0, held number) := by
  -- The latch is still open, so the claim of the last reference is the first.
  cases number <;> rfl

/-- Nobody gives up a reference to what is gone. -/
theorem release_gone (what : Counted) :
    (held 0).release what = .error (.releasedTooOften what) := rfl

end References

namespace World

/-- The references under a number. -/
def refs (world : World) (key : Nat) : References := world.counts.get key

/-- The world with other references under a number. -/
def setRefs (world : World) (key : Nat) (refs : References) : World :=
  { world with counts := world.counts.set key refs }

variable (world : World) (key : Nat) (given : References)

/-- What was put under a number is found there, and other counts stay as they were. -/
@[simp] theorem refs_setRefs (other : Nat) :
    (world.setRefs key given).refs other = if other = key then given else world.refs other := by
  -- A table that gets a value answers with it under this number alone.
  simp only [refs, setRefs, Table.get, Table.get?_set]
  split <;> rfl

@[simp] theorem sessions_setRefs : (world.setRefs key given).sessions = world.sessions := rfl

@[simp] theorem nextKey_setRefs : (world.setRefs key given).nextKey = world.nextKey := rfl

/-- The world after the next number was taken for something new. -/
def spendKey (world : World) : World := { world with nextKey := world.nextKey + 1 }

@[simp] theorem refs_spendKey : world.spendKey.refs key = world.refs key := rfl

@[simp] theorem sessions_spendKey : world.spendKey.sessions = world.sessions := rfl

@[simp] theorem nextKey_spendKey : world.spendKey.nextKey = world.nextKey + 1 := rfl

/-- The world after a session of a client was closed by a binding. -/
def endSession (world : World) (session : Nat) : World :=
  let client := world.sessions.get session
  -- The session of the server goes back to its pool, and the end is reported.
  { world with
    sessions := world.sessions.set session { client with closed := true }
    pools := world.pools.set client.pool ((world.pools.get client.pool).checkIn client.server)
    network := world.network.emit .sessionClosed }

@[simp] theorem refs_endSession (session : Nat) :
    (world.endSession session).refs key = world.refs key := rfl

@[simp] theorem nextKey_endSession (session : Nat) :
    (world.endSession session).nextKey = world.nextKey := rfl

/-- A session that was ended is closed. -/
@[simp] theorem closed_endSession (session : Nat) :
    ((world.endSession session).sessions.get session).closed = true := by
  -- The session is written back under its own number.
  simp only [endSession, Table.get, Table.get?_set, if_true, Option.getD_some]

/-- How often it was reported that a binding closed its session. -/
def closings (world : World) : Nat := world.network.events.count .sessionClosed

@[simp] theorem closings_spendKey : world.spendKey.closings = world.closings := rfl

@[simp] theorem closings_setRefs : (world.setRefs key given).closings = world.closings := rfl

/-- The end of a session is reported once. -/
@[simp] theorem closings_endSession (session : Nat) :
    (world.endSession session).closings = world.closings + 1 := by
  -- The report that is added is of the kind that is counted.
  simp [closings, endSession, Network.emit, List.count_append]

end World

namespace Act

variable {world : World} {key number : Nat} {what : Counted}

/-- Whoever finds references held can take one more. -/
theorem retain_held (held : world.refs key = .held (number + 1)) :
    retain key what world = (.ok (), world.setRefs key (.held (number + 2))) := by
  have counted : world.counts.get key = .held (number + 1) := held
  simp [retain, counted, References.retain_held, checkLifecycle, World.setRefs]

/-- Nobody takes a reference to what is gone. -/
theorem retain_gone (gone : world.refs key = .held 0) :
    retain key what world
      = (.error (.ofCause (.lifecycle (.retainedAfterRelease what))), world) := by
  have counted : world.counts.get key = .held 0 := gone
  simp [retain, counted, References.retain_gone, checkLifecycle, fail]

/-- Giving the last reference up runs the teardown, and giving any other up does not. -/
theorem releaseThen_held (teardown : Act Unit) (held : world.refs key = .held (number + 1)) :
    releaseThen key what teardown world =
      if number = 0 then teardown (world.setRefs key (.held 0))
      else (.ok (), world.setRefs key (.held number)) := by
  have counted : world.counts.get key = .held (number + 1) := held
  -- The count is written back before the teardown begins.
  by_cases last : number = 0 <;>
    simp [releaseThen, release, counted, References.release_held, checkLifecycle, World.setRefs,
      last]

/-- Giving the last reference up runs the teardown. -/
theorem releaseThen_last (teardown : Act Unit) (held : world.refs key = .held 1) :
    releaseThen key what teardown world = teardown (world.setRefs key (.held 0)) := by
  -- Nobody is left after the only one.
  have last : world.refs key = .held (0 + 1) := held
  rw [releaseThen_held teardown last, if_pos rfl]

/-- A new count stands under the next number, with one reference. -/
theorem freshCount_apply :
    freshCount world = (.ok world.nextKey, world.spendKey.setRefs world.nextKey (.held 1)) := rfl

/-- Two things that both succeed are done one after the other. -/
theorem both_ok {first second : Act Unit} {middle last : World}
    (one : first world = (.ok (), middle)) (two : second middle = (.ok (), last)) :
    both first second world = (.ok (), last) := by
  -- Both parts are tried, and neither has a halt to pass on.
  simp [both, attempt, resume, one, two]

/-- A session that is open is closed by the binding that owns it. -/
theorem closeOwnedSession_open {session : Nat}
    (usable : (world.sessions.get session).closed = false) :
    closeOwnedSession session world = (.ok (), world.endSession session) := by
  -- A session that is open takes the close, so the attempt has nothing to hide.
  simp [closeOwnedSession, attempt, closeSession, ClientSession.close, usable, checkLifecycle,
    checkIn, emit, World.endSession]

end Act
end DocWire
