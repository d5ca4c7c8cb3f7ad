import DocWire.Document.Record
import DocWire.Moment
import DocWire.Number.Binary64
import DocWire.Number.Decimal128
import DocWire.Text.Base64

/-! Values spelled as documents: a name that begins with a dollar sign tells the type, and what
stands under the name tells the value. Reading takes a document for what it spells as soon as such
a name turns up; writing does so only when the document is one name with one text. -/

namespace DocWire

/-- The names under which values are spelled. -/
inductive Spelling where
  | objectId | symbol | int32 | int64 | double | binary | uuid | code | scope | timestamp | regex
  | dbPointer | dateTime | minKey | maxKey | undefined | decimal | decimalBytes
deriving DecidableEq, Repr, Inhabited

namespace Spelling

/-- The name itself. -/
def name : Spelling → String
  | objectId => "$oid" | symbol => "$symbol" | int32 => "$numberInt" | int64 => "$numberLong"
  | double => "$numberDouble" | binary => "$binary" | uuid => "$uuid" | code => "$code"
  | scope => "$scope" | timestamp => "$timestamp" | regex => "$regularExpression"
  | dbPointer => "$dbPointer" | dateTime => "$date" | minKey => "$minKey" | maxKey => "$maxKey"
  | undefined => "$undefined" | decimal => "$numberDecimal"
  | decimalBytes => "$numberDecimalBytes"

/-- Every name. -/
def all : List Spelling :=
  [objectId, symbol, int32, int64, double, binary, uuid, code, scope, timestamp, regex, dbPointer,
    dateTime, minKey, maxKey, undefined, decimal, decimalBytes]

/-- The spelling that a name begins. -/
def ofName? (name : String) : Option Spelling := all.find? (·.name == name)

/-! What texts spell. -/

/-- Data of a given size, and no other. -/
def sized? (size : Nat) (data : Bytes) : Option Bytes :=
  if data.length = size then some data else none

/-- The object id that twenty-four digits spell. -/
def objectId? (text : String) : Option Bytes := (Bytes.ofHex? text).bind (sized? 12)

/-- The word that a text spells. -/
def word? (text : String) : Option Int32 :=
  (Number.signedWithin? (-0x80000000) 0x7fffffff text.toList).map Int32.ofInt

/-- The long word that a text spells. -/
def longWord? (text : String) : Option Int64 :=
  (Number.signedWithin? (-0x8000000000000000) 0x7fffffffffffffff text.toList).map Int64.ofInt

/-- The bytes of the decimal number that a text spells. -/
def decimal? (text : String) : Option Bytes :=
  (Number.Decimal128.parse? text).map Number.Decimal128.toBytes

/-- The moment that a text spells. -/
def moment? (text : String) : Option Int64 := (Moment.parse? text).map Int64.ofInt

/-- The bytes of five groups of digits with hyphens between them. -/
def hyphenated? (chars : List Char) : Option Bytes :=
  if chars.length = 36 ∧ [8, 13, 18, 23].all fun place => chars[place]? == some '-' then
    -- A hyphen anywhere else leaves too few digits.
    (Bytes.ofHexDigits? (chars.filter (· ≠ '-'))).bind (sized? 16)
  else none

/-- The sixteen bytes of a universal id: plain digits, or groups that may stand in braces or after
the name of their kind. -/
def uuid? (text : String) : Option Bytes :=
  let chars := text.toList
  if chars.length = 32 then Bytes.ofHexDigits? chars
  -- The name is read in small and in capital letters.
  else if (chars.take 9).map Char.toLower = "urn:uuid:".toList then hyphenated? (chars.drop 9)
  else if chars.head? = some '\x7b' ∧ chars.getLast? = some '\x7d' then
    hyphenated? chars.tail.dropLast
  else hyphenated? chars

/-! What stands under the names. -/

/-- Binary data as text in sixty-four characters and a subtype in two digits. -/
def binary? (value : RawValue) : Option Value := do
  let record ← Record.only? ["base64", "subType"] value
  let text ← record.required? 0 ["base64"] RawValue.text?
  let data ← Base64.decode? text.toList
  -- The subtype is one byte, so its digits are two, never one.
  match Bytes.ofHex? (← record.required? 1 ["subType"] RawValue.text?) with
  | some [subtype] => some (.binary subtype data)
  | _ => none

/-- A number of seconds or of what happened in one. -/
def timestampPart? (value : RawValue) : Option UInt32 :=
  (value.integerWithin? 0 0xffffffff).map fun n => UInt32.ofNat n.toNat

/-- A timestamp by its two parts. -/
def timestamp? (value : RawValue) : Option Value := do
  let record ← Record.only? ["t", "i"] value
  let time ← record.required? 0 ["t"] timestampPart?
  let increment ← record.required? 1 ["i"] timestampPart?
  return .timestamp time increment

/-- A regular expression by its two texts. -/
def regex? (value : RawValue) : Option Value := do
  let record ← Record.only? ["pattern", "options"] value
  let pattern ← record.required? 0 ["pattern"] RawValue.text?
  let options ← record.required? 1 ["options"] RawValue.text?
  return .regex pattern (sortedText options)

/-- The object id that a pointer leads to, spelled out or not. -/
def target? : RawValue → Option Bytes
  | .atom (.objectId id) => some id
  | value => do
    let record ← Record.only? ["$oid"] value
    objectId? (← record.required? 0 ["$oid"] RawValue.text?)

/-- A pointer by its collection and its object id. -/
def dbPointer? (value : RawValue) : Option Value := do
  let record ← Record.only? ["$ref", "$id"] value
  let namespaceName ← record.required? 0 ["$ref"] RawValue.text?
  let id ← record.required? 1 ["$id"] target?
  return .dbPointer namespaceName id

/-- A moment as milliseconds, as a spelled long word, or in the notation by date and time. -/
def dateTime? (value : RawValue) : Option Int64 :=
  match value with
  | .document [(key, millis)] =>
    if key = int64.name then millis.text?.bind longWord? else none
  -- The long word may also stand alone in an array.
  | .array [millis] => millis.text?.bind longWord?
  | other =>
    match other.longWord? with
    | some millis => some millis
    | none => other.text?.bind moment?

/-- An object id as digits or as data. -/
def objectIdOf? : RawValue → Option Bytes
  | .atom (.string text) => objectId? text
  | .atom (.binary 0 data) => sized? 12 data
  | _ => none

/-- A single byte. -/
def byte? (value : RawValue) : Option UInt8 :=
  (value.integerWithin? 0 255).map fun n => UInt8.ofNat n.toNat

/-- A decimal number as data, as a text that stands for its bytes, or as a list of bytes. -/
def decimalOf? : RawValue → Option Bytes
  | .atom (.string text) => sized? 16 (Bytes.ofString text)
  | .atom (.binary 0 data) => sized? 16 data
  | .array items => (items.mapM byte?).bind (sized? 16)
  | _ => none

/-- The value that is spelled under a name by itself; code with a scope takes two names. -/
def value? (spelling : Spelling) (value : RawValue) : Option Value :=
  match spelling with
  | objectId => (objectIdOf? value).map .objectId
  | symbol => value.text?.map .symbol
  | int32 => (value.text?.bind word?).map .int32
  | int64 => (value.text?.bind longWord?).map .int64
  | double => (value.text?.bind Number.Binary64.parse?).map .double
  | binary => binary? value
  | uuid => (value.text?.bind uuid?).map (.binary 4)
  | code => value.text?.map .code
  | scope => none
  | timestamp => timestamp? value
  | regex => regex? value
  | dbPointer => dbPointer? value
  | dateTime => (dateTime? value).map .dateTime
  -- The two ends of the order are spelled with a number that says nothing.
  | minKey => if value.integer? = some 1 then some .minKey else none
  | maxKey => if value.integer? = some 1 then some .maxKey else none
  | undefined => if value.truth? = some true then some .undefined else none
  | decimal => (value.text?.bind decimal?).map .decimal128
  | decimalBytes => (decimalOf? value).map .decimal128

end Spelling

/-- Code with the scope that was read for it, which has to be a document. -/
def scoped? (source : Option String) (scope : Option Value) : Option Value :=
  match source, scope with
  | some source, some (.document scope) => some (.codeWithScope source scope)
  | _, _ => none

mutual

/-- Any value; a document that spells a value is read as that value. -/
def RawValue.any? : RawValue → Option Value
  | .atom value => some value.settled
  | .document fields => spelled? [] fields
  | .array items => (anyItems? items).map .array
  | .codeWithScope source scope => scoped? (some source) (spelled? [] scope)
  | .broken => none

/-- The document that the fields make after those read before, or the value that they spell. -/
def spelled? (before : Document) : List (String × RawValue) → Option Value
  | [] => some (.document before)
  | (key, value) :: rest =>
    match Spelling.ofName? key with
    -- Under any other name stands any value.
    | none =>
      match value.any? with
      | none => none
      | some value => spelled? (before.insert key value) rest
    | some .code =>
      match rest with
      | [] => value.text?.map .code
      | (other, scope) :: _ =>
        if other = Spelling.scope.name then scoped? value.text? scope.any? else none
    | some .scope =>
      match rest with
      | [] => none
      | (other, source) :: _ =>
        if other = Spelling.code.name then scoped? source.text? value.any? else none
    -- What stands before or after a spelled value is passed over.
    | some spelling => spelling.value? value

/-- Items of an array, each any value. -/
def anyItems? : List RawValue → Option (List Value)
  | [] => some []
  | value :: rest => do
    let value ← value.any?
    return value :: (← anyItems? rest)

end

namespace RawValue

/-- A timestamp. -/
def timestamp? (value : RawValue) : Option (UInt32 × UInt32) :=
  match value.any? with
  | some (.timestamp time increment) => some (time, increment)
  | _ => none

/-- An embedded document, which must not spell another value. -/
def document? (value : RawValue) : Option Document :=
  match value.any? with
  | some (.document fields) => some fields
  | _ => none

end RawValue

namespace Value

/-- The name and the text that spell a value, where one text does. -/
def spelling? : Value → Option (String × String)
  | .symbol name => some (Spelling.symbol.name, name)
  | .code source => some (Spelling.code.name, source)
  | .objectId id => some (Spelling.objectId.name, Bytes.toHex id)
  | .dateTime millis =>
    -- A moment that the notation by date and time cannot tell is spelled as a number.
    if 0 ≤ millis.toInt ∧ millis.toInt < Moment.limit then
      some (Spelling.dateTime.name, Moment.text millis.toInt.toNat)
    else none
  | .decimal128 data => (Bytes.toString? data).map fun text => (Spelling.decimalBytes.name, text)
  | _ => none

/-- The value that a name and a text spell. -/
def ofSpelling? (name text : String) : Option Value :=
  match name with
  | "$oid" => (Spelling.objectId? text).map .objectId
  | "$symbol" => some (.symbol text)
  | "$numberInt" => (Spelling.word? text).map .int32
  | "$numberLong" => (Spelling.longWord? text).map .int64
  | "$numberDouble" => (Number.Binary64.parse? text).map .double
  | "$numberDecimal" => (Spelling.decimal? text).map .decimal128
  | "$code" => some (.code text)
  | "$date" => (Spelling.moment? text).map .dateTime
  | _ => none

end Value

/-- The value that a document is written as: what its one name and text spell, or itself. -/
def Document.written : Document → Value
  | [(name, .string text)] =>
    (Value.ofSpelling? name text).getD (.document [(name, .string text)])
  | fields => .document fields

mutual

/-- The value as it is written: documents that spell a value become that value, and decimal numbers
take the preferred form. -/
def Value.written : Value → Value
  | .document fields => Document.written (writtenFields fields)
  | .array items => .array (writtenItems items)
  | .decimal128 data => .decimal128 (Number.Decimal128.canonical data)
  | .codeWithScope source scope =>
    match Document.written (writtenFields scope) with
    | .document scope => .codeWithScope source scope
    -- A scope that is no document any more leaves the spelling of the code unread.
    | scope => .document [(Spelling.code.name, .string source), (Spelling.scope.name, scope)]
  | value => value

/-- The fields with their values as they are written. -/
def writtenFields : List (String × Value) → List (String × Value)
  | [] => []
  | (key, value) :: rest => (key, value.written) :: writtenFields rest

/-- The items as they are written. -/
def writtenItems : List Value → List Value
  | [] => []
  | value :: rest => value.written :: writtenItems rest

end

end DocWire
