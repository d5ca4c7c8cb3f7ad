import DocWire.Document.Basic
import DocWire.Wire.Message

/-! Rules for the names of fields in documents that go out. -/

namespace DocWire

/-- A rule for the names of fields. -/
inductive NameRule where
  | any
  | collectible
  | update
  | replacement
deriving DecidableEq, Repr, Inhabited

namespace NameRule

/-- Whether a name begins with the sign of an operator. -/
def isOperator (name : String) : Bool := name.toList.head? == some '$'

/-- Whether the rule allows a name. -/
def allows (rule : NameRule) (name : String) : Bool :=
  match rule with
  | any => true
  -- A dot would be taken for a path into the document.
  | collectible => !isOperator name && !name.toList.contains '.'
  | update => isOperator name
  | replacement => !isOperator name

/-- The rule for names inside the value of a field: only stored documents are held to it there. -/
def inside : NameRule → NameRule
  | collectible => collectible
  | _ => any

end NameRule

mutual

/-- The first name in a document that a rule does not allow. -/
def offending? (rule : NameRule) : List (String × Value) → Option String
  | [] => none
  | (name, value) :: rest =>
    -- A name is judged before what stands under it, and that before the next name.
    if rule.allows name then
      match offendingValue? rule.inside value with
      | some name => some name
      | none => offending? rule rest
    else some name

/-- The first name inside a value that a rule does not allow. -/
def offendingValue? (rule : NameRule) : Value → Option String
  | .document fields => offending? rule fields
  | .array items => offendingItems? rule items
  -- The scope of a piece of code is no part of the document.
  | _ => none

/-- The first name inside the items of an array that a rule does not allow. -/
def offendingItems? (rule : NameRule) : List Value → Option String
  | [] => none
  | value :: rest =>
    match offendingValue? rule value with
    | some name => some name
    | none => offendingItems? rule rest

end

/-- Refuses a document with a name that a rule does not allow. -/
def checkNames (rule : NameRule) (document : Document) : Except Cause Unit :=
  match offending? rule document with
  | some name => refuse (.fieldName name)
  | none => .ok ()

end DocWire
