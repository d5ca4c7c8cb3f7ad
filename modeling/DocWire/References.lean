import DocWire.Error.Basic

/-! Counts of references, and the latch that lets a teardown run once. -/

namespace DocWire

/-- How many references are held, and whether the teardown has been claimed. -/
structure References where
  count : Nat := 1
  tornDown : Bool := false
deriving DecidableEq, Repr, Inhabited

namespace References

/-- Whether nobody holds a reference any more. -/
def isReleased (refs : References) : Bool := refs.count == 0

/-- Refuses the use of what nobody holds any more. -/
def ensureLive (refs : References) (what : Counted) : Except LifecycleFault Unit :=
  if refs.isReleased then .error (.usedAfterRelease what) else .ok ()

/-- Takes one more reference. -/
def retain (refs : References) (what : Counted) : Except LifecycleFault References :=
  -- What has reached zero stays there.
  if refs.count = 0 then .error (.retainedAfterRelease what)
  else .ok { refs with count := refs.count + 1 }

/-- Gives one reference up, and tells whether it was the last. -/
def decrement (refs : References) (what : Counted) : Except LifecycleFault (Bool × References) :=
  -- There is nothing to give up below zero.
  if refs.count = 0 then .error (.releasedTooOften what)
  else .ok (refs.count == 1, { refs with count := refs.count - 1 })

/-- Claims the teardown, which only the first claim gets. -/
def claim (refs : References) : Bool × References :=
  -- The latch never opens again.
  (!refs.tornDown, { refs with tornDown := true })

/-- Gives one reference up; whoever gives up the last one claims the teardown. -/
def release (refs : References) (what : Counted) : Except LifecycleFault (Bool × References) := do
  let (last, refs) ← refs.decrement what
  return if last then refs.claim else (false, refs)

end References
end DocWire
