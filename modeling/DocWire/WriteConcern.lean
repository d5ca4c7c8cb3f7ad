import DocWire.Document.Record
import DocWire.Duration
import DocWire.Error.Argument

/-! Write concerns: how far a write has to get before the server acknowledges it. -/

namespace DocWire

/-- Which members have to take a write. -/
inductive Acknowledgment where
  | nodes (count : Int32)
  | majority
  | custom (name : String)
deriving DecidableEq, Repr, Inhabited

namespace Acknowledgment

/-- A name stands for itself, except that the majority has one. -/
def ofName (name : String) : Acknowledgment := if name = "majority" then majority else custom name

/-- The value that stands for the members. -/
def toValue : Acknowledgment → Value
  | nodes count => .int32 count
  | majority => .string "majority"
  | custom name => .string name

/-- The members that a number or a name stands for. -/
def ofValue? (value : RawValue) : Option Acknowledgment :=
  -- A number is tried first, then a name.
  match value.word? with
  | some count => some (nodes count)
  | none => value.text?.map ofName

end Acknowledgment

/-- The acknowledgment asked of a write. -/
structure WriteConcern where
  members : Option Acknowledgment := none
  timeout : Option Duration := none
  journal : Option Bool := none
deriving DecidableEq, Repr, Inhabited

namespace WriteConcern

/-- The write concern that asks for no acknowledgment. -/
def unacknowledged : WriteConcern := { members := some (.nodes 0) }

/-- Whether the server answers a write with this concern. -/
def isAcknowledged (concern : WriteConcern) : Bool :=
  -- A journaled write is answered even when no member has to take it.
  concern.members != some (.nodes 0) || concern.journal == some true

/-- Whether the concern asks for nothing. -/
def isEmpty (concern : WriteConcern) : Bool :=
  concern.members.isNone && concern.timeout.isNone && concern.journal.isNone

/-- Refuses a negative number of nodes, and journaling without acknowledgment. -/
def validate (concern : WriteConcern) : Except ArgumentFault Unit :=
  match concern.members with
  | some (.nodes count) =>
    -- The number is looked at before the journal.
    if count < 0 then .error .negativeNodes
    else if count = 0 ∧ concern.journal = some true then .error .journalUnacknowledged
    else .ok ()
  | _ => .ok ()

/-- The milliseconds of a time limit, cut to a long word. -/
def timeoutWord (timeout : Duration) : Int64 := Int64.ofInt timeout.millis

/-- The fields that are set, in their order. -/
def toDocument (concern : WriteConcern) : Document :=
  (concern.members.map fun members => ("w", members.toValue)).toList ++
    (concern.timeout.map fun timeout => ("wtimeout", Value.int64 (timeoutWord timeout))).toList ++
    (concern.journal.map fun journal => ("j", Value.boolean journal)).toList

/-- The concern that a value holds. -/
def ofValue? (value : RawValue) : Option WriteConcern := do
  let record ← Record.ofValue? ["w", "wtimeout", "j"] value
  let members ← record.optional? 0 ["w"] Acknowledgment.ofValue?
  -- The time limit may be left out anywhere; the other two have to stand in an array.
  let timeout ← record.defaulted? 1 ["wtimeout"] none (Record.orNull RawValue.natural?)
  let journal ← record.optional? 2 ["j"] RawValue.truth?
  return { members, timeout := timeout.map Duration.ofMillis, journal }

/-- The command that asks how the write before it went. -/
def lastErrorCommand (concern : WriteConcern) : Document :=
  Document.extend [("getlasterror", .int32 1)] concern.toDocument

end WriteConcern
end DocWire
