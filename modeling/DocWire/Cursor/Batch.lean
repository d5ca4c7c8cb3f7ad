import DocWire.Command.Run

/-! Batches of a cursor: the documents of a reply and the cursor to go on from. -/

namespace DocWire

/-- One batch of results. -/
structure Batch (α : Type) where
  source : Namespace
  results : List α
  cursor : Option ServerCursor
  address : Address
deriving Repr, Inhabited

namespace Batch

/-- The batch of a cursor; number zero means that the cursor is exhausted. -/
def ofCursor {α : Type} (source : Namespace) (results : List α) (id : Int64) (address : Address) :
    Batch α :=
  { source, results, cursor := if id = 0 then none else some ⟨id, address⟩, address }

/-- The number of the cursor to go on from, zero when there is none. -/
def cursorId {α : Type} (batch : Batch α) : Int64 := (batch.cursor.map (·.id)).getD 0

/-- Whether the server holds further results. -/
def hasMore {α : Type} (batch : Batch α) : Bool := batch.cursor.isSome

end Batch

/-- The reply that a legacy request has to be answered with. -/
def expectReply : Option Response → Except Cause Reply
  | some (.reply reply) => .ok reply
  | some (.message _) => badResponse .notReply
  | none => .error (.internal .queryWithoutReply)

/-- Classifies a legacy reply by its flags, and decodes its documents when none is raised. -/
def classify {α : Type} (reply : Reply) (decoder : Decoder α) (cursor : Int64) (address : Address) :
    Exchange (List α) :=
  -- A cursor that is gone counts more than a failure, and either more than documents.
  if reply.flags.cursorNotFound then Exchange.fail (.cursorNotFound ⟨cursor, address⟩)
  else if reply.flags.queryFailure then
    match reply.documents with
    | [] => Exchange.fail (.response .noFailureDocument)
    | first :: _ => flaggedFailure address first
  else Exchange.decodeAll decoder reply.documents

/-- Sends a command that is answered, and refuses an answer that does not report a success. -/
def sendCommand (command : Command) (context : Correlation) : Exchange RawDocument := do
  let line ← get
  let request ← Exchange.check (command.request line.connection.description)
  match ← send request context with
  | none => Exchange.fail (.internal .commandWithoutReply)
  | some response =>
    let reply ← replyDocument line.connection.id.address response
    Exchange.check reply.ensureSuccess
    return reply

/-- Goes on with a field, or ends the work because it could not be had. -/
def requireField {α : Type} (key : String) (kind : ElementKind) :
    Except RawDocument.Missing α → Except Cause α
  | .ok value => .ok value
  | .error missing => badResponse (missing.fault key kind)

/-- The number of the cursor in a reply. -/
def cursorNumber (cursor : RawDocument) : Except Cause Int64 := do
  match ← requireField "id" .int64 (cursor.scalar "id" .int64) with
  | .int64 number => return number
  | _ => badResponse .malformed

/-- The namespace that a cursor names, or else the one that was asked for. -/
def cursorSource (cursor : RawDocument) (asked : Namespace) : Namespace :=
  match cursor.scalar "ns" .string with
  -- A namespace that cannot be read is no reason to fail.
  | .ok (.string text) => (Namespace.parse? text).getD asked
  | _ => asked

/-- Decodes the elements of a batch in order; each has to be a document. -/
def decodeElements {α : Type} (decoder : Decoder α) (field : String) (broken : Bool) :
    List RawElement → Exchange (List α)
  -- What is wrong with the bytes shows only after the elements before it.
  | [] => if broken then Exchange.fail (.response .malformed) else pure []
  | element :: rest =>
    if !element.readable then Exchange.fail (.response .malformed)
    else if element.kind ≠ .document then Exchange.fail (.response (.entryKind field))
    else do
      let front ← Exchange.decode decoder ⟨element.payload⟩
      let back ← decodeElements decoder field broken rest
      return front :: back

/-- Reads the batch in the reply to a cursor command. -/
def readBatch {α : Type} (reply : RawDocument) (field : String) (asked : Namespace)
    (address : Address) (decoder : Decoder α) : Exchange (Batch α) := do
  let cursor ← Exchange.check (requireField "cursor" .document (reply.document "cursor"))
  let id ← Exchange.check (cursorNumber cursor)
  let source := cursorSource cursor asked
  let entries ← Exchange.check (requireField field .array (cursor.array field))
  -- The fields of the cursor are judged before any document is decoded.
  let (elements, broken) := scanAll entries.elements
  let results ← decodeElements decoder field broken elements
  return Batch.ofCursor source results id address

end DocWire
