import DocWire.Bytes

/-! Documents: ordered fields of typed values, with insertion in place. -/

namespace DocWire

/-- A value of a document; a document or an array lists its parts in order. -/
inductive Value where
  | double (bits : UInt64)
  | string (text : String)
  | document (fields : List (String × Value))
  | array (items : List Value)
  | binary (subtype : UInt8) (data : Bytes)
  | undefined
  | objectId (data : Bytes)
  | boolean (truth : Bool)
  | dateTime (millis : Int64)
  | null
  | regex (pattern options : String)
  | dbPointer (namespaceName : String) (id : Bytes)
  | code (source : String)
  | symbol (name : String)
  | codeWithScope (source : String) (scope : List (String × Value))
  | int32 (number : Int32)
  | timestamp (time increment : UInt32)
  | int64 (number : Int64)
  | decimal128 (data : Bytes)
  | minKey
  | maxKey
deriving Repr, Inhabited

/-- The fields of a document, in order. -/
abbrev Document := List (String × Value)

/-- The type of a value as its encoding names it. -/
inductive ElementKind where
  | double | string | document | array | binary | undefined | objectId | boolean | dateTime
  | null | regex | dbPointer | code | symbol | codeWithScope | int32 | timestamp | int64
  | decimal128 | minKey | maxKey
deriving DecidableEq, Repr, Inhabited

namespace ElementKind

/-- The byte that stands before an element of this kind. -/
def tag : ElementKind → UInt8
  | double => 0x01 | string => 0x02 | document => 0x03 | array => 0x04 | binary => 0x05
  | undefined => 0x06 | objectId => 0x07 | boolean => 0x08 | dateTime => 0x09 | null => 0x0A
  | regex => 0x0B | dbPointer => 0x0C | code => 0x0D | symbol => 0x0E | codeWithScope => 0x0F
  | int32 => 0x10 | timestamp => 0x11 | int64 => 0x12 | decimal128 => 0x13 | maxKey => 0x7F
  | minKey => 0xFF

/-- Every kind, in the order of the tags. -/
def all : List ElementKind :=
  [double, string, document, array, binary, undefined, objectId, boolean, dateTime, null, regex,
    dbPointer, code, symbol, codeWithScope, int32, timestamp, int64, decimal128, maxKey, minKey]

/-- The kind that a tag stands for. -/
def ofTag? (tag : UInt8) : Option ElementKind := all.find? (·.tag == tag)

/-- The name of the kind in error texts. -/
def name : ElementKind → String
  | double => "Double" | string => "String" | document => "EmbeddedDocument" | array => "Array"
  | binary => "Binary" | undefined => "Undefined" | objectId => "ObjectId" | boolean => "Boolean"
  | dateTime => "DateTime" | null => "Null" | regex => "RegularExpression"
  | dbPointer => "DbPointer" | code => "JavaScriptCode" | symbol => "Symbol"
  | codeWithScope => "JavaScriptCodeWithScope" | int32 => "Int32" | timestamp => "Timestamp"
  | int64 => "Int64" | decimal128 => "Decimal128" | minKey => "MinKey" | maxKey => "MaxKey"

end ElementKind

/-- The kind of a value. -/
def Value.kind : Value → ElementKind
  | .double _ => .double | .string _ => .string | .document _ => .document | .array _ => .array
  | .binary _ _ => .binary | .undefined => .undefined | .objectId _ => .objectId
  | .boolean _ => .boolean | .dateTime _ => .dateTime | .null => .null | .regex _ _ => .regex
  | .dbPointer _ _ => .dbPointer | .code _ => .code | .symbol _ => .symbol
  | .codeWithScope _ _ => .codeWithScope | .int32 _ => .int32 | .timestamp _ _ => .timestamp
  | .int64 _ => .int64 | .decimal128 _ => .decimal128 | .minKey => .minKey | .maxKey => .maxKey

/-- Whether a character does not come after another in code point order. -/
def notAfter (a b : Char) : Bool := a.toNat ≤ b.toNat

/-- The characters of a text in code point order. -/
def sortedText (text : String) : String := String.ofList (text.toList.mergeSort notAfter)

namespace Document

/-- The value of the first field with the name. -/
def get? (document : Document) (key : String) : Option Value :=
  (document.find? (·.1 == key)).map (·.2)

/-- Puts the value where the name stands already, or else at the end. -/
def insert : Document → String → Value → Document
  | [], key, value => [(key, value)]
  | (other, old) :: rest, key, value =>
    -- The old value goes, its place stays.
    if other = key then (key, value) :: rest else (other, old) :: insert rest key value

/-- Inserts fields one after another. -/
def extend (document : Document) (fields : List (String × Value)) : Document :=
  fields.foldl (fun d field => d.insert field.1 field.2) document

/-- The document of a list of fields, where a repeated name replaces the earlier value in place. -/
def ofFields (fields : List (String × Value)) : Document := extend [] fields

/-- The name of the first field. -/
def firstKey? (document : Document) : Option String := document.head?.map (·.1)

/-- Inserts a value that may be missing. -/
def insertSome (document : Document) (key : String) : Option Value → Document
  | none => document
  | some value => document.insert key value

end Document

mutual

/-- The value as it is read back: the repeated names of every document inside it are resolved, and
the options of regular expressions are sorted. -/
def Value.settled : Value → Value
  -- What is inside is settled first, then repeated names give way to the last.
  | .document fields => .document (Document.ofFields (settledFields fields))
  | .array items => .array (settledItems items)
  | .codeWithScope source scope => .codeWithScope source (Document.ofFields (settledFields scope))
  | .regex pattern options => .regex pattern (sortedText options)
  | value => value

/-- The fields with settled values, repeated names still in place. -/
def settledFields : List (String × Value) → List (String × Value)
  | [] => []
  | (key, value) :: rest => (key, value.settled) :: settledFields rest

/-- The items, settled. -/
def settledItems : List Value → List Value
  | [] => []
  | value :: rest => value.settled :: settledItems rest

end

/-- The document that a list of fields makes, at every depth. -/
def Document.settle (fields : List (String × Value)) : Document :=
  Document.ofFields (settledFields fields)

end DocWire
