import DocWire.World

/-! Bindings and sources: from where operations get their connections. Every source holds a
reference to the binding it came from, and a session binding one to the binding inside it. -/

namespace DocWire

/-- A binding by the number of its count: to a cluster, or to another binding under a session. -/
inductive Binding where
  | cluster (count topology : Nat) (preference : ReadPreference)
  | session (count : Nat) (inner : Binding) (session : Nat) (ownsSession : Bool)
deriving Repr, Inhabited

/-- A source of connections by the number of its count: to a server, or to another source under
the session of a binding. -/
inductive Source where
  | server (count : Nat) (binding : Binding) (server : Server)
  | session (count : Nat) (binding : Binding) (inner : Source)
deriving Repr, Inhabited

/-- The session that an operation runs under, and whether the library made it. -/
structure SessionUse where
  session : Nat
  implicit : Bool
deriving DecidableEq, Repr, Inhabited

/-- What a source is acquired for. -/
inductive Intent where
  | read
  | write
deriving DecidableEq, Repr, Inhabited

namespace Act

/-- A new count with one reference. -/
def freshCount : Act Nat := do
  let key ← freshKey
  modify fun world => { world with counts := world.counts.set key {} }
  return key

/-- How many references are held. -/
def countOf (key : Nat) : Act Nat := return ((← get).counts.get key).count

/-- Refuses what nobody holds any more. -/
def ensureLive (key : Nat) (what : Counted) : Act Unit := do
  checkLifecycle (((← get).counts.get key).ensureLive what)

/-- Takes one more reference. -/
def retain (key : Nat) (what : Counted) : Act Unit := do
  let refs ← checkLifecycle (((← get).counts.get key).retain what)
  modify fun world => { world with counts := world.counts.set key refs }

/-- Gives one reference up, and tells whether the teardown is to run. -/
def release (key : Nat) (what : Counted) : Act Bool := do
  let (last, refs) ← checkLifecycle (((← get).counts.get key).release what)
  modify fun world => { world with counts := world.counts.set key refs }
  return last

/-- Gives one reference up, and runs the teardown if it was the last. -/
def releaseThen (key : Nat) (what : Counted) (teardown : Act Unit) : Act Unit := do
  if ← release key what then teardown

/-- Closes the session that a binding owns, and reports how that went. -/
def closeOwnedSession (session : Nat) : Act Unit := do
  match ← attempt (closeSession session) with
  | .ok () => emit .sessionClosed
  | .error halt =>
    -- Somebody has closed the session that the binding owns.
    emit .sessionNotClosed
    throw halt

end Act

namespace Binding

/-- The number of the count. -/
def count : Binding → Nat
  | cluster count _ _ => count
  | session count _ _ _ => count

/-- What error texts call the binding. -/
def counted : Binding → Counted
  | cluster .. => .binding
  | session .. => .sessionBinding

/-- The topology that servers are selected from. -/
def topology : Binding → Nat
  | cluster _ topology _ => topology
  | session _ inner _ _ => inner.topology

/-- The preference by which reads are routed. -/
def readPreference : Binding → ReadPreference
  | cluster _ _ preference => preference
  | session _ inner _ _ => inner.readPreference

/-- The session that operations run under. -/
def sessionUse : Binding → Option SessionUse
  | cluster .. => none
  | session _ _ held ownsSession => some ⟨held, ownsSession⟩

/-- The server interface that commands declare. -/
def api (binding : Binding) : Act (Option ServerApi) :=
  return ((← get).topologies.get binding.topology).options.api

/-- Takes one more reference. -/
def retain (binding : Binding) : Act Unit := Act.retain binding.count binding.counted

/-- Gives a reference up; the last one to a session binding closes the session that it owns, and
gives up the reference to the binding inside. -/
def release : Binding → Act Unit
  | cluster count _ _ => Act.releaseThen count .binding (pure ())
  | session count inner held ownsSession =>
    -- Both parts of the teardown run, and a failed close is what the caller sees.
    Act.releaseThen count .sessionBinding
      (Act.both (if ownsSession then Act.closeOwnedSession held else pure ()) inner.release)

/-- What is asked of the server of a source. -/
def criteria (binding : Binding) : Intent → Criteria
  | .read => .preference binding.readPreference
  | .write => .forWrites

/-- Begins to acquire a source: nothing is held, but every binding has to be live. -/
def beginAcquire : Binding → Act Unit
  | cluster count _ _ => Act.ensureLive count .binding
  | session count inner _ _ => do
    -- The outer binding is judged before the inner one.
    Act.ensureLive count .sessionBinding
    inner.beginAcquire

end Binding

namespace Source

/-- The number of the count. -/
def count : Source → Nat
  | server count _ _ => count
  | session count _ _ => count

/-- What is known of the server. -/
def description : Source → ServerDescription
  | server _ _ selected => selected.description
  | session _ _ inner => inner.description

/-- The session that operations run under. -/
def sessionUse : Source → Option SessionUse
  | server .. => none
  | session _ binding _ => binding.sessionUse

/-- Takes one more reference. -/
def retain (source : Source) : Act Unit := Act.retain source.count .connectionSource

/-- Gives a reference up; the last one gives up what the source holds itself. -/
def release : Source → Act Unit
  | server count binding _ => Act.releaseThen count .connectionSource binding.release
  | session count binding inner =>
    Act.releaseThen count .connectionSource (Act.both inner.release binding.release)

/-- Refuses a source that nobody holds, and the use of a closed session. -/
def ensureUsable : Source → Act Unit
  | server count _ _ => Act.ensureLive count .connectionSource
  | session count binding inner => do
    Act.ensureLive count .connectionSource
    -- The session is judged before the source that is wrapped.
    match binding.sessionUse with
    | some use => Act.ensureUsable use.session
    | none => pure ()
    inner.ensureUsable

/-- The server that connections go to. -/
def target : Source → Server
  | server _ _ selected => selected
  | session _ _ inner => inner.target

/-- Checks a connection out of the server; one reference to it is the caller's. How servers hand
connections out is up to them. -/
def connection (source : Source) (checkout : Server → Act Nat := Act.connectTo) : Act Nat := do
  source.ensureUsable
  checkout source.target

end Source

namespace Binding

/-- Gives back a source of a binding that was released meanwhile. -/
def giveBack (source : Source) : Act Unit := do
  match ← Act.attempt source.release with
  | .ok () => pure ()
  | .error _ => Act.emit .sourceNotReleased

/-- Ends the acquisition of a source to a selected server: the source holds a reference to every
binding on the way. -/
def finishAcquire (selected : Server) : Binding → Act Source
  | binding@(cluster count _ _) => do
    Act.retain count .binding
    return .server (← Act.freshCount) binding selected
  | binding@(session count inner _ _) => do
    -- The inner binding gives its source first; it goes back when the outer one is gone.
    let source ← inner.finishAcquire selected
    match ← Act.attempt (Act.retain count .sessionBinding) with
    | .ok () => return .session (← Act.freshCount) binding source
    | .error halt =>
      giveBack source
      throw halt

/-- Acquires a source, whose first reference is the caller's. -/
def acquire (binding : Binding) (intent : Intent) : Act Source := do
  binding.beginAcquire
  -- The references are taken only now, because a binding may go while servers are awaited.
  let selected ← Act.select binding.topology (binding.criteria intent)
  binding.finishAcquire selected

/-- A binding to a cluster. -/
def toCluster (topology : Nat) (preference : ReadPreference) : Act Binding := do
  return .cluster (← Act.freshCount) topology preference

/-- A binding under a session, which takes over the caller's reference to the binding inside. -/
def underSession (inner : Binding) (session : Nat) (ownsSession : Bool) : Act Binding := do
  return .session (← Act.freshCount) inner session ownsSession

/-- A binding under a session that it starts and owns. -/
def underOwnSession (inner : Binding) (pool : Nat) : Act Binding := do
  -- A session that nobody asked for is not causal.
  let session ← Act.startSession pool false
  inner.underSession session true

end Binding
end DocWire
