import DocWire.Document.Basic

/-! When two values say the same: fields in any order, and doubles by their numbers. -/

namespace DocWire

/-- Whether two doubles are one number; zeros of both signs are, and no number at all is not. -/
def sameNumber (a b : UInt64) : Bool := Float.ofBits a == Float.ofBits b

/-- Whether two values without parts are the same. -/
def sameAtom : Value → Value → Bool
  | .double a, .double b => sameNumber a b
  | .string a, .string b => a == b
  | .binary s a, .binary t b => s == t && a == b
  | .undefined, .undefined => true
  | .objectId a, .objectId b => a == b
  | .boolean a, .boolean b => a == b
  | .dateTime a, .dateTime b => a == b
  | .null, .null => true
  | .regex a x, .regex b y => a == b && x == y
  | .dbPointer a x, .dbPointer b y => a == b && x == y
  | .code a, .code b => a == b
  | .symbol a, .symbol b => a == b
  | .int32 a, .int32 b => a == b
  | .timestamp a x, .timestamp b y => a == b && x == y
  | .int64 a, .int64 b => a == b
  | .decimal128 a, .decimal128 b => a == b
  | .minKey, .minKey => true
  | .maxKey, .maxKey => true
  | _, _ => false

mutual

/-- Whether two values are the same. -/
def Value.same (a b : Value) : Bool :=
  match a with
  -- Equal numbers of fields and a partner for each make the two sets of fields equal.
  | .document fields =>
    match b with
    | .document others => fields.length == others.length && sameFields fields others
    | _ => false
  | .array items =>
    match b with
    | .array others => sameItems items others
    | _ => false
  | .codeWithScope source scope =>
    match b with
    | .codeWithScope other inner =>
      source == other && scope.length == inner.length && sameFields scope inner
    | _ => false
  | atom => sameAtom atom b

/-- Whether every field stands in another document with the same value. -/
def sameFields (fields others : List (String × Value)) : Bool :=
  match fields with
  | [] => true
  | (key, value) :: rest =>
    -- The other document is searched by name, so the order of its fields does not matter.
    match Document.get? others key with
    | some other => value.same other && sameFields rest others
    | none => false

/-- Whether two lists of items are the same, in order. -/
def sameItems (items others : List Value) : Bool :=
  match items, others with
  | [], [] => true
  | item :: rest, other :: more => item.same other && sameItems rest more
  | _, _ => false

end

/-- Whether two documents are the same. -/
def Document.same (a b : Document) : Bool := a.length == b.length && sameFields a b

end DocWire
