import DocWire.Document.Equality
import DocWire.Document.Spelling
import DocWire.Error.Basic

/-! Sessions: the numbered sessions of a server, the pool that keeps idle ones, and the session of a
client with the times it has seen. -/

namespace DocWire

/-- A moment in the history of a cluster: seconds, and a count within the second. -/
abbrev Timestamp := UInt32 × UInt32

/-- Whether one moment comes before another. -/
def Timestamp.before (a b : Timestamp) : Bool := a.1 < b.1 || (a.1 == b.1 && a.2 < b.2)

/-- The value of a moment. -/
def Timestamp.toValue (moment : Timestamp) : Value := .timestamp moment.1 moment.2

/-- A time that the cluster reported, with its signature. -/
structure ClusterTime where
  moment : Timestamp
  signature : Document
deriving Repr, Inhabited

namespace ClusterTime

/-- The time that a value holds. -/
def ofValue? (value : RawValue) : Option ClusterTime := do
  let record ← Record.ofValue? ["clusterTime", "signature"] value
  let moment ← record.required? 0 ["clusterTime"] RawValue.timestamp?
  let signature ← record.required? 1 ["signature"] RawValue.document?
  return { moment, signature }

/-- The time as a document, the signature as it is written. -/
def toDocument (time : ClusterTime) : Document :=
  [("clusterTime", Timestamp.toValue time.moment),
    ("signature", (Value.document time.signature).written)]

/-- Whether one time comes before another, whatever the signatures. -/
def before (a b : ClusterTime) : Bool := Timestamp.before a.moment b.moment

/-- Whether two times are the same, with the same signature. -/
def same (a b : ClusterTime) : Bool := a.moment == b.moment && a.signature.same b.signature

end ClusterTime

/-- A session that a server keeps, told apart by its number. -/
structure ServerSession where
  number : Nat
deriving DecidableEq, Repr, Inhabited

namespace ServerSession

/-- The sixteen bytes that identify the session, most significant first. -/
def identifier (session : ServerSession) : Bytes := (Bytes.ofNat 16 session.number).reverse

/-- The document that identifies the session in commands. -/
def id (session : ServerSession) : Document := [("id", .binary 4 session.identifier)]

end ServerSession

/-- Idle sessions, the one given back last coming first. -/
structure SessionPool where
  idle : List ServerSession := []
deriving DecidableEq, Repr, Inhabited

namespace SessionPool

/-- Takes the session given back last, when there is one. -/
def checkOut (pool : SessionPool) : Option (ServerSession × SessionPool) :=
  match pool.idle with
  | [] => none
  | session :: rest => some (session, ⟨rest⟩)

/-- Gives a session back. -/
def checkIn (pool : SessionPool) (session : ServerSession) : SessionPool :=
  -- The newest comes first, so the oldest rest the longest.
  ⟨session :: pool.idle⟩

end SessionPool

/-- The session of a client. -/
structure ClientSession where
  server : ServerSession
  pool : Nat
  causal : Bool
  clusterTime : Option ClusterTime := none
  operationTime : Option Timestamp := none
  closed : Bool := false
deriving Repr, Inhabited

namespace ClientSession

/-- Takes over a cluster time that comes after the one seen so far. -/
def advanceClusterTime (session : ClientSession) (time : ClusterTime) : ClientSession :=
  match session.clusterTime with
  | none => { session with clusterTime := some time }
  | some seen =>
    -- An equal moment keeps the signature that was seen first.
    if seen.before time then { session with clusterTime := some time } else session

/-- Takes over a moment that comes after the one seen so far. -/
def advanceOperationTime (session : ClientSession) (moment : Timestamp) : ClientSession :=
  match session.operationTime with
  | none => { session with operationTime := some moment }
  | some seen =>
    if Timestamp.before seen moment then { session with operationTime := some moment } else session

/-- Refuses the use of a closed session. -/
def ensureUsable (session : ClientSession) : Except LifecycleFault Unit :=
  if session.closed then .error .sessionUsedAfterClose else .ok ()

/-- Closes a session that is still open. -/
def close (session : ClientSession) : Except LifecycleFault ClientSession :=
  if session.closed then .error .sessionClosedTwice else .ok { session with closed := true }

end ClientSession
end DocWire
