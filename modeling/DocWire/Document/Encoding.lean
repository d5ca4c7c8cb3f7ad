import DocWire.Document.Basic

/-! The byte form of documents: a length, tagged elements and a final zero. -/

namespace DocWire

/-- A text and a final zero, unless the text holds a zero itself. -/
def zeroTerminated? (text : String) : Option Bytes :=
  if '\x00' ∈ text.toList then none else some (Bytes.ofString text ++ [0])

/-- The length of a text with its final zero, the text and the zero. -/
def lengthPrefixed (text : String) : Bytes :=
  -- The length counts the final zero, not itself.
  let bytes := Bytes.ofString text
  Bytes.ofNat 4 (bytes.length + 1) ++ bytes ++ [0]

/-- Elements between the length of the whole and a final zero. -/
def enclosed (elements : Bytes) : Bytes := Bytes.ofNat 4 (elements.length + 5) ++ elements ++ [0]

/-- Subtype 2 repeats the length of its data before the data. -/
def encodeBinary (subtype : UInt8) (data : Bytes) : Bytes :=
  -- The outer length counts the inner one.
  if subtype = 2 then
    Bytes.ofNat 4 (data.length + 4) ++ [subtype] ++ Bytes.ofNat 4 data.length ++ data
  else Bytes.ofNat 4 data.length ++ [subtype] ++ data

/-- The options of a regular expression are written sorted. -/
def encodeRegex? (pattern options : String) : Option Bytes := do
  return (← zeroTerminated? pattern) ++ (← zeroTerminated? (sortedText options))

/-- A total length, the code and its scope. -/
def encodeScoped (source : String) (scope : Bytes) : Bytes :=
  -- The total counts its own four bytes.
  let parts := lengthPrefixed source ++ enclosed scope
  Bytes.ofNat 4 (parts.length + 4) ++ parts

mutual

/-- The bytes of a value, without its tag and name; a name or pattern with a zero has none. -/
def Value.encode? : Value → Option Bytes
  | .double bits => some (Bytes.ofUInt64 bits)
  | .string text => some (lengthPrefixed text)
  | .document fields => (encodeFields? fields).map enclosed
  | .array items => (encodeItems? 0 items).map enclosed
  | .binary subtype data => some (encodeBinary subtype data)
  | .undefined => some []
  | .objectId data => some data
  | .boolean truth => some [if truth then 1 else 0]
  | .dateTime millis => some (Bytes.ofInt64 millis)
  | .null => some []
  | .regex pattern options => encodeRegex? pattern options
  | .dbPointer namespaceName id => some (lengthPrefixed namespaceName ++ id)
  | .code source => some (lengthPrefixed source)
  | .symbol name => some (lengthPrefixed name)
  | .codeWithScope source scope => (encodeFields? scope).map (encodeScoped source)
  | .int32 number => some (Bytes.ofInt32 number)
  -- The increment comes first, so that later timestamps are greater as long words.
  | .timestamp time increment => some (Bytes.ofUInt32 increment ++ Bytes.ofUInt32 time)
  | .int64 number => some (Bytes.ofInt64 number)
  | .decimal128 data => some data
  | .minKey => some []
  | .maxKey => some []

/-- The elements of a document, each its tag, its name and its value. -/
def encodeFields? : List (String × Value) → Option Bytes
  | [] => some []
  | (key, value) :: rest => do
    let name ← zeroTerminated? key
    let payload ← value.encode?
    let others ← encodeFields? rest
    return value.kind.tag :: (name ++ payload ++ others)

/-- The elements of an array, named by their positions. -/
def encodeItems? : (index : Nat) → List Value → Option Bytes
  | _, [] => some []
  | index, value :: rest => do
    let payload ← value.encode?
    let others ← encodeItems? (index + 1) rest
    return value.kind.tag :: (Bytes.ofString (toString index) ++ [0] ++ payload ++ others)

end

end DocWire
