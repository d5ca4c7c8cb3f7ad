import DocWire.Connection.Description
import DocWire.Document.Decoding
import DocWire.Document.Encoding
import DocWire.ServerApi
import DocWire.Session.Basic
import DocWire.Wire.Request

/-! Commands: documents with a name, stamped and framed in the dialect of a server. -/

namespace DocWire

/-- The raw form of a document, which a name with a zero inside does not have. -/
def Document.encode (document : Document) : Except Cause RawDocument :=
  match encodeFields? document with
  | some elements => .ok ⟨enclosed elements⟩
  | none => badResponse .malformed

/-- The document of a raw form, unless its bytes are malformed. -/
def RawDocument.decode (document : RawDocument) : Except Cause Document :=
  match document.toDocument? with
  | some document => .ok document
  | none => badResponse .malformed

/-- What a server grants a command beyond the longest document. -/
def commandOverhead : Nat := 16384

/-- A command to a database. -/
structure Command where
  database : String
  body : Document
  readPreference : Option ReadPreference := none
  sequences : List DocumentSequence := []
  responseExpected : Bool := true
deriving Repr, Inhabited

namespace Command

/-- The command that a document spells; its first field names it. -/
def ofDocument (database : String) (body : Document) (preference : Option ReadPreference) :
    Except Cause Command :=
  match body.firstKey? with
  | none => refuse .emptyCommand
  | some _ => .ok { database, body, readPreference := preference }

/-- Stamps the command with a session and the time that it has seen. -/
def underSession (command : Command) (session : Option ClientSession) : Command :=
  match session with
  | none => command
  | some session =>
    -- The time follows the session only when one has been seen.
    let body := command.body.insert "lsid" (.document session.server.id)
    { command with
      body := body.insertSome "$clusterTime" (session.clusterTime.map (.document ·.toDocument)) }

/-- Stamps the command with the interface that it declares. -/
def underApi (command : Command) (api : Option ServerApi) : Command :=
  match api with
  | none => command
  | some api => { command with body := api.stamp command.body }

/-- The preference for a member other than the primary, if there is one. -/
def secondaryPreference (command : Command) : Option ReadPreference :=
  command.readPreference.filter (·.allowsSecondary)

end Command

/-- Refuses a command that is longer than the server takes. -/
def checkCommand (document : RawDocument) (description : ConnectionDescription) :
    Except Cause Unit :=
  let limit := description.documentBytes + commandOverhead
  if limit < document.bytes.length then refuse (.commandTooLarge document.bytes.length limit)
  else .ok ()

namespace Command

/-- The body of a message of the current framing. -/
def messageBody (command : Command) (type : ServerType) : Document :=
  -- The database comes after every stamp.
  let body := command.body.insert "$db" (.string command.database)
  match command.secondaryPreference with
  | some preference =>
    -- A single server has no other members to prefer.
    if type = .standalone then body
    else body.insert "$readPreference" (.document preference.toDocument)
  | none => body

/-- The command as a message of the current framing. -/
def toMessage (command : Command) (description : ConnectionDescription) : Except Cause Message := do
  let body ← (command.messageBody description.type).encode
  checkCommand body description
  return {
    flags := { moreToCome := !command.responseExpected }
    body
    sequences := command.sequences }

/-- The documents of a sequence as the items of an array. -/
def itemsOf : List RawDocument → Except Cause (List Value)
  | [] => .ok []
  | document :: rest => do
    let front ← document.decode
    let back ← itemsOf rest
    return .document front :: back

/-- Puts sequences of documents into the body as arrays. -/
def embed (body : Document) : List DocumentSequence → Except Cause Document
  | [] => .ok body
  | sequence :: rest => do
    let items ← itemsOf sequence.documents
    embed (body.insert sequence.identifier (.array items)) rest

/-- Routers are told the read preference beside the query. -/
def wrapped (query : Document) (preference : ReadPreference) : Document :=
  [("$query", .document query), ("$readPreference", .document preference.toDocument)]

/-- The document of a legacy query for the command. -/
def queryBody (command : Command) (body : Document) (type : ServerType) : Document :=
  match command.secondaryPreference with
  | some preference => if type = .mongos then wrapped body preference else body
  | none => body

/-- The body is the whole query, unless a router is told a preference beside it. -/
theorem queryBody_cases (command : Command) (body : Document) (type : ServerType) :
    command.queryBody body type = body ∨
      ∃ preference, command.queryBody body type = wrapped body preference := by
  unfold queryBody
  split
  · split
    · exact .inr ⟨_, rfl⟩
    · exact .inl rfl
  · exact .inl rfl

/-- The command as a legacy query for one document. -/
def toQuery (command : Command) (description : ConnectionDescription) :
    Except Cause LegacyQuery := do
  -- There are no sections in this framing, so all documents go into the body.
  let body ← embed command.body command.sequences
  let query ← (command.queryBody body description.type).encode
  checkCommand query description
  return {
    flags := { secondaryOk := command.secondaryPreference.isSome }
    target := Namespace.ofCommands command.database
    -- One document, and no cursor is left open for it.
    toReturn := -1
    query }

/-- The command in the dialect of the server. -/
def request (command : Command) (description : ConnectionDescription) : Except Cause Request :=
  if description.hasMessages then (command.toMessage description).map .message
  else (command.toQuery description).map .query

end Command
end DocWire
