import DocWire.Document.Raw
import DocWire.Document.RawValue

/-! Whole documents read from their bytes, and single fields looked up without reading the rest. -/

namespace DocWire

/-- A text with its length before it, alone or followed by other bytes. -/
def readText? (bytes : Bytes) : Option (String × Bytes) := do
  let size ← textSize? bytes
  -- Neither the length nor the final zero is text.
  return (← Bytes.toString? ((bytes.take (size - 1)).drop 4), bytes.drop size)

/-- The data of a binary value; subtype 2 repeats the length of its data. -/
def decodeBinary? (payload : Bytes) : Option Value := do
  let (subtype, data) ← match payload.drop 4 with
    | [] => none
    | subtype :: data => some (subtype, data)
  -- The inner length has to agree with the outer one.
  if subtype = 2 then
    let inner ← readLength? data
    if inner + 4 = data.length then some (.binary 2 (data.drop 4)) else none
  else some (.binary subtype data)

/-- The values whose bytes hold no other document. -/
def decodeScalar? (kind : ElementKind) (payload : Bytes) : Option Value :=
  match kind with
  | .double => some (.double (Bytes.toUInt64 payload))
  | .string => (readText? payload).map (.string ·.1)
  | .binary => decodeBinary? payload
  | .undefined => some .undefined
  | .objectId => some (.objectId payload)
  -- Any other byte is neither true nor false.
  | .boolean =>
    if payload = [0] then some (.boolean false)
    else if payload = [1] then some (.boolean true)
    else none
  | .dateTime => some (.dateTime (Bytes.toInt64 payload))
  | .null => some .null
  | .regex => do
    let (pattern, bytes) ← readName? payload
    let (options, _) ← readName? bytes
    return .regex pattern (sortedText options)
  | .dbPointer => (readText? payload).map fun (name, id) => .dbPointer name id
  | .code => (readText? payload).map (.code ·.1)
  | .symbol => (readText? payload).map (.symbol ·.1)
  | .int32 => some (.int32 (Bytes.toInt32 payload))
  | .timestamp =>
    some (.timestamp (Bytes.toUInt32 (payload.drop 4)) (Bytes.toUInt32 (payload.take 4)))
  | .int64 => some (.int64 (Bytes.toInt64 payload))
  | .decimal128 => some (.decimal128 payload)
  | .minKey => some .minKey
  | .maxKey => some .maxKey
  | .document | .array | .codeWithScope => none

mutual

/-- The fields that a run of elements holds, up to its final zero or to where it breaks off. -/
def foundFields (bytes : Bytes) : List (String × RawValue) :=
  match found : scan bytes with
  | .done => []
  -- What breaks off counts as one more field, which cannot be read.
  | .broken => [("", .broken)]
  | .element head rest =>
    have := length_scan found
    (head.key, foundValue head.kind head.payload) :: foundFields rest
termination_by 2 * bytes.length

/-- The value that a payload holds. -/
def foundValue (kind : ElementKind) (payload : Bytes) : RawValue :=
  match kind with
  | .document => .document (foundFields (payload.drop 4))
  -- The names in an array are passed over; the order counts.
  | .array => .array ((foundFields (payload.drop 4)).map (·.2))
  | .codeWithScope =>
    match readText? (payload.drop 4) with
    | none => .broken
    | some (source, scope) =>
      -- The scope has to end where the value ends.
      if framed scope then
        .codeWithScope source (foundFields (payload.drop (payload.length - scope.length + 4)))
      else .broken
  | other =>
    match decodeScalar? other payload with
    | none => .broken
    | some value => .atom value
termination_by 2 * payload.length + 1
decreasing_by all_goals simp only [List.length_drop]; omega

end

/-- The value that a payload holds, when all of it is right. -/
def decodeValue? (kind : ElementKind) (payload : Bytes) : Option Value :=
  (foundValue kind payload).whole?

namespace RawDocument

/-- The document as it is found, repeated names included. -/
def found (document : RawDocument) : RawValue := .document (foundFields document.elements)

/-- The document that the bytes spell, when all of it is right. -/
def toDocument? (document : RawDocument) : Option Document :=
  (wholeFields? (foundFields document.elements)).map Document.settle

/-- Why a field could not be had. -/
inductive Missing where
  | broken
  | absent
  | otherKind (actual : ElementKind)
deriving DecidableEq, Repr

end RawDocument

/-- The first element with the name, when all elements up to it are right. -/
def findElement (key : String) (bytes : Bytes) : Except RawDocument.Missing RawElement :=
  match found : scan bytes with
  | .done => .error .absent
  | .broken => .error .broken
  | .element head rest =>
    have := length_scan found
    -- What stands after the first such element is never looked at.
    if head.key = key then .ok head else findElement key rest
termination_by bytes.length

/-- Whether the value of an element can be read, any document inside it left unread. -/
def RawElement.readable (element : RawElement) : Bool :=
  match element.kind with
  -- The frame was judged when the element was scanned.
  | .document | .array => true
  | .codeWithScope =>
    match readText? (element.payload.drop 4) with
    | some (_, scope) => framed scope
    | none => false
  | kind => (decodeScalar? kind element.payload).isSome

namespace RawDocument

/-- The payload of the first field with the name, when the field has the kind. -/
def payload (document : RawDocument) (key : String) (kind : ElementKind) :
    Except Missing Bytes := do
  let element ← findElement key document.elements
  -- That the element is broken is told before that it is of another kind.
  if !element.readable then .error .broken
  else if element.kind = kind then .ok element.payload
  else .error (.otherKind element.kind)

/-- The first field with the name as a document that is not read yet. -/
def document (document : RawDocument) (key : String) : Except Missing RawDocument :=
  return ⟨← document.payload key .document⟩

/-- The first field with the name as the raw form of an array. -/
def array (document : RawDocument) (key : String) : Except Missing RawDocument :=
  return ⟨← document.payload key .array⟩

/-- The first field with the name, read by itself. -/
def scalar (document : RawDocument) (key : String) (kind : ElementKind) : Except Missing Value := do
  let payload ← document.payload key kind
  match decodeValue? kind payload with
  | some value => .ok value
  | none => .error .broken

/-- The first field with the name, of any kind. -/
def value? (document : RawDocument) (key : String) : Option Value :=
  match findElement key document.elements with
  | .ok element => decodeValue? element.kind element.payload
  | .error _ => none

end RawDocument

/-- The elements in order up to the first that is wrong, and whether there is such a one. -/
def scanAll (bytes : Bytes) : List RawElement × Bool :=
  match found : scan bytes with
  | .done => ([], false)
  | .broken => ([], true)
  | .element head rest =>
    have := length_scan found
    let (others, broken) := scanAll rest
    (head :: others, broken)
termination_by bytes.length

end DocWire
