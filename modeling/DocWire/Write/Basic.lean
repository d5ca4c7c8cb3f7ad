import DocWire.Command.Reply
import DocWire.FieldName
import DocWire.WriteConcern

/-! Writes: one document to insert, one update or one deletion, in the dialect of the server. -/

namespace DocWire

/-- How the document of an update is read. -/
inductive UpdateKind where
  | operators
  | replacement
deriving DecidableEq, Repr, Inhabited

/-- What is to be written. -/
inductive Statement where
  | insert (document : Document)
  | update (filter update : Document) (upsert multi : Bool) (kind : UpdateKind)
  | delete (filter : Document) (multi : Bool)
deriving Repr, Inhabited

/-- A write to a collection. -/
structure Write where
  target : Namespace
  statement : Statement
  ordered : Bool := true
  concern : WriteConcern := {}
  context : Correlation := {}
deriving Repr, Inhabited

namespace Statement

/-- The name of the command. -/
def name : Statement → String
  | insert .. => "insert"
  | update .. => "update"
  | delete .. => "delete"

/-- The field of the command that the statement belongs to. -/
def identifier : Statement → String
  | insert .. => "documents"
  | update .. => "updates"
  | delete .. => "deletes"

/-- The statement as a document. -/
def toDocument : Statement → Document
  | .insert document => document
  | .update filter change upsert multi _ =>
    [("q", .document filter), ("u", .document change), ("upsert", .boolean upsert),
      ("multi", .boolean multi)]
  | .delete filter multi => [("q", .document filter), ("limit", .int32 (if multi then 0 else 1))]

/-- Whether the statement is an update. -/
def isUpdate : Statement → Bool
  | update .. => true
  | _ => false

/-- Whether the statement is an insertion. -/
def isInsert : Statement → Bool
  | insert _ => true
  | _ => false

end Statement

/-- Refuses a document that is longer than the server takes. -/
def checkDocument (document : Document) (description : ConnectionDescription) :
    Except Cause Unit := do
  let encoded ← document.encode
  let length := encoded.bytes.length
  if description.documentBytes < length then
    refuse (.documentTooLarge length description.documentBytes)
  else return ()

/-- Refuses what the server could not store or would misread. -/
def Statement.check (statement : Statement) (description : ConnectionDescription) :
    Except Cause Unit :=
  match statement with
  | .insert document => do
    checkNames .collectible document
    checkDocument document description
  -- Operators are applied by the server, so their size says little about the document.
  | .update _ change _ _ .operators => checkNames .update change
  | .update _ change _ _ .replacement => do
    checkNames .replacement change
    checkDocument change description
  | .delete _ _ => .ok ()

namespace Write

/-- The body of the write command. -/
def body (write : Write) : Document :=
  let body := Document.ofFields
    [(write.statement.name, .string write.target.collection), ("ordered", .boolean write.ordered),
      (write.statement.identifier, .array [.document write.statement.toDocument])]
  -- A concern that asks for nothing leaves the choice to the server.
  if write.concern.isEmpty then body
  else body.insert "writeConcern" (.document write.concern.toDocument)

/-- The write as a command. -/
def command (write : Write) : Command where
  database := write.target.database
  body := write.body
  responseExpected := write.concern.isAcknowledged

/-- The write as a request of the legacy framing. -/
def legacyRequest (write : Write) : Except Cause Request :=
  match write.statement with
  | .insert document => do
    let document ← document.encode
    return .insert
      { continueOnError := !write.ordered, target := write.target, documents := [document] }
  | .update filter change upsert multi _ => do
    let selector ← filter.encode
    let update ← change.encode
    return .update { target := write.target, flags := { upsert, multi }, selector, update }
  | .delete filter multi => do
    let selector ← filter.encode
    return .delete { target := write.target, singleRemove := !multi, selector }

/-- The question for the outcome of the write before it. -/
def lastErrorCommand (write : Write) : Command where
  database := write.target.database
  body := write.concern.lastErrorCommand

/-- Runs the write as a command. -/
def runCommand (write : Write) : Exchange WriteResult := do
  let line ← get
  let request ← Exchange.check (write.command.request line.connection.description)
  match ← send request write.context with
  -- The server was told not to answer.
  | none => return .unacknowledged
  | some response =>
    let reply ← replyDocument line.connection.id.address response
    Exchange.check (writeResult reply write.statement.isUpdate)

/-- Sends the write as a legacy request, which the server does not answer. -/
def sendLegacy (write : Write) : Exchange Unit := do
  let request ← Exchange.check write.legacyRequest
  let _ ← send request write.context

/-- Asks how the legacy request before went; an inserted document counts as one. -/
def confirmLegacy (write : Write) : Exchange WriteResult := do
  let line ← get
  let request ← Exchange.check (write.lastErrorCommand.request line.connection.description)
  match ← send request write.context with
  | none => Exchange.fail (.internal .lastErrorWithoutReply)
  | some response =>
    let reply ← replyDocument line.connection.id.address response
    let result ← Exchange.check (lastErrorResult reply)
    -- Servers count no insertions in this dialect.
    return if write.statement.isInsert then { result with count := 1 } else result

/-- Runs the write as a legacy request, and asks for its outcome when that is wanted. -/
def runLegacy (write : Write) : Exchange WriteResult := do
  write.sendLegacy
  if write.concern.isAcknowledged then write.confirmLegacy else return .unacknowledged

/-- Runs the write in the dialect of the server. -/
def run (write : Write) : Exchange WriteResult := do
  let line ← get
  let description := line.connection.description
  -- The statement is judged before the concern, and both before anything is sent.
  Exchange.check (write.statement.check description)
  Exchange.check (write.concern.validate.mapError .argument)
  if description.hasWriteCommands then write.runCommand else write.runLegacy

end Write
end DocWire
