import DocWire.Document.RawValue

/-! Records read from values: each field by its name in a document, or by its place in an array. -/

namespace DocWire

/-- Where the fields of a record stand. -/
inductive Record where
  | named (fields : List (String × RawValue))
  | listed (items : List RawValue)
deriving Repr, Inhabited

namespace Record

/-- The record of some fields that a value holds, whatever other fields are in it. -/
def ofValue? (names : List String) : RawValue → Option Record
  | .document fields =>
    let (known, others) := fields.partition fun field => names.contains field.1
    -- The other fields are not asked for, but they have to be readable.
    if others.all (·.2.isWhole) then some (.named known) else none
  -- In an array nothing is looked at before it is asked for.
  | .array items => some (.listed items)
  | .broken => none
  -- Plain data has words for texts, bytes, numbers, truth values and nothing.
  | .atom (.string _) | .atom (.binary 0 _) | .atom (.double _) | .atom (.int32 _)
  | .atom (.int64 _) | .atom (.boolean _) | .atom .null => none
  -- Other types are spelled as documents, under names that no record asks for.
  | other => if other.isWhole then some (.named []) else none

/-- The record of some fields that a value holds, when no other fields are in it. -/
def only? (names : List String) : RawValue → Option Record
  | .document fields =>
    if fields.all fun field => names.contains field.1 then some (.named fields) else none
  | .array items => some (.listed items)
  | _ => none

/-- What a record holds for one field. -/
inductive Entry where
  | absent
  | short
  | present (value : RawValue)
deriving Repr, Inhabited

/-- The entry of a field, which may have several names but may stand only once. -/
def entry? (record : Record) (place : Nat) (names : List String) : Option Entry :=
  -- An array tells its fields by their places alone, a document by their names alone.
  match record with
  | .listed items =>
    match items[place]? with
    | some value => some (.present value)
    | none => some .short
  | .named fields =>
    match fields.filter fun field => names.contains field.1 with
    | [] => some .absent
    | [field] => some (.present field.2)
    -- Two entries for one field contradict each other even when they agree.
    | _ => none

/-- A field that has to be there. -/
def required? {α : Type} (record : Record) (place : Nat) (names : List String)
    (read : RawValue → Option α) : Option α := do
  match ← record.entry? place names with
  | .present value => read value
  | .absent | .short => none

/-- A field that has a value of its own when it is left out. -/
def defaulted? {α : Type} (record : Record) (place : Nat) (names : List String) (default : α)
    (read : RawValue → Option α) : Option α := do
  match ← record.entry? place names with
  | .present value => read value
  | .absent | .short => some default

/-- Reads null as nothing. -/
def orNull {α : Type} (read : RawValue → Option α) : RawValue → Option (Option α)
  | .atom .null => some none
  | value => (read value).map some

/-- A field that may be null, and in a document may be left out. -/
def optional? {α : Type} (record : Record) (place : Nat) (names : List String)
    (read : RawValue → Option α) : Option (Option α) := do
  match ← record.entry? place names with
  | .present value => orNull read value
  -- An array has to be long enough to say that the field is null.
  | .absent => some none
  | .short => none

end Record

namespace RawValue

/-- The number of an integer of either width. -/
def integer? : RawValue → Option Int
  | .atom (.int32 number) => some number.toInt
  | .atom (.int64 number) => some number.toInt
  | _ => none

/-- An integer between two bounds. -/
def integerWithin? (low high : Int) (value : RawValue) : Option Int := do
  -- Doubles are not taken, not even whole ones.
  let number ← value.integer?
  if low ≤ number ∧ number ≤ high then some number else none

/-- An integer that fits a word. -/
def word? (value : RawValue) : Option Int32 :=
  (value.integerWithin? (-0x80000000) 0x7fffffff).map Int32.ofInt

/-- An integer that fits a long word. -/
def longWord? (value : RawValue) : Option Int64 :=
  (value.integerWithin? (-0x8000000000000000) 0x7fffffffffffffff).map Int64.ofInt

/-- An integer that is not negative. -/
def natural? (value : RawValue) : Option Nat :=
  (value.integerWithin? 0 0xffffffffffffffff).map Int.toNat

/-- A text, or plain binary data that spells one. -/
def text? : RawValue → Option String
  | .atom (.string text) => some text
  -- The bytes have to be well-formed.
  | .atom (.binary 0 data) => Bytes.toString? data
  | _ => none

/-- A truth value. -/
def truth? : RawValue → Option Bool
  | .atom (.boolean truth) => some truth
  | _ => none

/-- The items of an array, each read in the same way. -/
def items? {α : Type} (read : RawValue → Option α) : RawValue → Option (List α)
  | .array items => items.mapM read
  | _ => none

end RawValue
end DocWire
