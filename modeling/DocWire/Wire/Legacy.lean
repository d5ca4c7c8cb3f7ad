import DocWire.Document.Encoding
import DocWire.Namespace
import DocWire.Wire.Message

/-! Requests of the legacy framing, one kind of message for each thing to ask. -/

namespace DocWire

/-- A query, or a command sent as one. -/
structure LegacyQuery where
  flags : QueryFlags := {}
  target : Namespace
  skip : Int32 := 0
  toReturn : Int32 := 0
  query : RawDocument
  fields : Option RawDocument := none
deriving DecidableEq, Repr, Inhabited

/-- A request for the next documents of a cursor. -/
structure LegacyGetMore where
  target : Namespace
  toReturn : Int32
  cursor : Int64
deriving DecidableEq, Repr, Inhabited

/-- A request to give cursors up. -/
structure LegacyKillCursors where
  cursors : List Int64
deriving DecidableEq, Repr, Inhabited

/-- Documents to insert, going on after a failure or not. -/
structure LegacyInsert where
  continueOnError : Bool
  target : Namespace
  documents : List RawDocument
deriving DecidableEq, Repr, Inhabited

/-- An update of the documents that a selector picks. -/
structure LegacyUpdate where
  target : Namespace
  flags : UpdateFlags
  selector : RawDocument
  update : RawDocument
deriving DecidableEq, Repr, Inhabited

/-- A deletion of one or all of the documents that a selector picks. -/
structure LegacyDelete where
  target : Namespace
  singleRemove : Bool
  selector : RawDocument
deriving DecidableEq, Repr, Inhabited

/-- Four zero bytes, reserved in most requests. -/
def reserved : Bytes := [0, 0, 0, 0]

/-- A namespace and a final zero; a zero inside it is refused. -/
def encodeNamespace (ns : Namespace) : Except Cause Bytes :=
  match zeroTerminated? ns.text with
  | some bytes => .ok bytes
  | none => refuse (.interiorZero ns.text)

/-- The query without its header. -/
def LegacyQuery.encode (query : LegacyQuery) : Except Cause Bytes := do
  let target ← encodeNamespace query.target
  -- Without a projection the message ends with the query.
  let fields := (query.fields.map (·.bytes)).getD []
  return Bytes.ofUInt32 query.flags.toWord ++ target ++ Bytes.ofInt32 query.skip ++
    Bytes.ofInt32 query.toReturn ++ query.query.bytes ++ fields

/-- The request without its header. -/
def LegacyGetMore.encode (request : LegacyGetMore) : Except Cause Bytes := do
  let target ← encodeNamespace request.target
  return reserved ++ target ++ Bytes.ofInt32 request.toReturn ++ Bytes.ofInt64 request.cursor

/-- The request without its header. -/
def LegacyKillCursors.encode (request : LegacyKillCursors) : Except Cause Bytes :=
  -- The count of cursors has to fit a word.
  if largestWord < request.cursors.length then refuse .tooManyCursors
  else .ok (reserved ++ Bytes.ofNat 4 request.cursors.length ++
    request.cursors.flatMap Bytes.ofInt64)

/-- The request without its header. -/
def LegacyInsert.encode (insert : LegacyInsert) : Except Cause Bytes := do
  let target ← encodeNamespace insert.target
  -- The one flag of an insertion takes the place of the reserved word.
  return Bytes.ofNat 4 (bitIf insert.continueOnError 0) ++ target ++
    insert.documents.flatMap (·.bytes)

/-- The request without its header. -/
def LegacyUpdate.encode (update : LegacyUpdate) : Except Cause Bytes := do
  let target ← encodeNamespace update.target
  return reserved ++ target ++ Bytes.ofUInt32 update.flags.toWord ++ update.selector.bytes ++
    update.update.bytes

/-- The request without its header. -/
def LegacyDelete.encode (delete : LegacyDelete) : Except Cause Bytes := do
  let target ← encodeNamespace delete.target
  return reserved ++ target ++ Bytes.ofNat 4 (bitIf delete.singleRemove 0) ++ delete.selector.bytes

end DocWire
