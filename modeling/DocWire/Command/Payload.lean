import DocWire.Command.Basic

/-! Payloads: documents that travel with a command, as many at a time as fit. -/

namespace DocWire

/-- What the documents of a payload are for. -/
inductive PayloadKind where
  | insert
  | update
  | delete
deriving DecidableEq, Repr, Inhabited

/-- The field of the command that the documents belong to. -/
def PayloadKind.identifier : PayloadKind → String
  | insert => "documents"
  | update => "updates"
  | delete => "deletes"

/-- Documents of which those before a position have been sent; the position never passes the end. -/
structure Payload where
  kind : PayloadKind
  documents : List RawDocument
  position : Nat := 0
  bounded : position ≤ documents.length := by exact Nat.zero_le _
deriving DecidableEq, Repr, Inhabited

/-- The bytes of a name. -/
def nameLength (name : String) : Nat := (Bytes.ofString name).length

/-- How many decimal digits a number has; zero has one. -/
def digitCount (number : Nat) : Nat :=
  -- Each division by ten takes the last digit away.
  if number / 10 = 0 then 1 else digitCount (number / 10) + 1
termination_by number

/-- What a document takes as an element of an array: a tag, the digits of its place, a zero and
itself. -/
def elementLength (place length : Nat) : Nat := 1 + digitCount place + 1 + length

/-- The raw forms of documents. -/
def encodeAll : List Document → Except Cause (List RawDocument)
  | [] => .ok []
  | document :: rest => do
    let front ← document.encode
    let back ← encodeAll rest
    return front :: back

namespace Payload

/-- The payload of documents, none of them sent yet. -/
def ofDocuments (kind : PayloadKind) (documents : List Document) : Except Cause Payload := do
  return { kind, documents := ← encodeAll documents }

/-- What stands in for a payload that is away. -/
def placeholder (kind : PayloadKind) : Payload := { kind, documents := [] }

/-- The documents that have not been sent. -/
def remaining (payload : Payload) : List RawDocument := payload.documents.drop payload.position

/-- Whether documents are left to send. -/
def hasMore (payload : Payload) : Bool := payload.position < payload.documents.length

/-- Moves on past documents that were sent. -/
def advance (payload : Payload) (count : Nat) : Payload :=
  { payload with
    position := min (payload.position + count) payload.documents.length
    bounded := Nat.min_le_right _ _ }

/-- What is left of a message beside the command, the names of the batch and the overhead. -/
def messageBudget (kind : PayloadKind) (commandLength : Nat)
    (description : ConnectionDescription) : Nat :=
  -- A budget that would be negative is none at all.
  description.messageBytes -
    (headerLength + 4 + 1 + commandLength + 1 + 4 + nameLength kind.identifier + 1 +
      commandOverhead)

/-- What is left of a document beside the command and the frame of an array in it. -/
def documentBudget (kind : PayloadKind) (commandLength : Nat)
    (description : ConnectionDescription) : Nat :=
  description.documentBytes - (commandLength + 1 + nameLength kind.identifier + 1 + 4 + 1)

/-- What a document adds to the batch, at its place there. -/
def cost (description : ConnectionDescription) (place length : Nat) : Nat :=
  -- Beside the command documents stand bare, inside it they are elements of an array.
  if description.hasMessages then length else elementLength place length

/-- The front of the documents that fits into a budget, of which `place` documents and `used` bytes
are taken; a document that is too long is refused when it is looked at. -/
def gather (description : ConnectionDescription) (budget position : Nat) :
    (place used : Nat) → List RawDocument → Except Cause (List RawDocument)
  | _, _, [] => .ok []
  | place, used, document :: rest =>
    let length := document.bytes.length
    -- A document that no message could hold is refused even when the batch is full.
    if description.documentBytes < length then
      refuse (.payloadDocumentTooLarge (position + place) length description.documentBytes)
    else
      let used := used + cost description place length
      if place = description.batchLimit ∨ budget < used then .ok []
      else do
        let others ← gather description budget position (place + 1) used rest
        return document :: others

/-- The next batch to send with a command; it is empty only when nothing is left. -/
def nextBatch (payload : Payload) (command : Document) (description : ConnectionDescription) :
    Except Cause DocumentSequence := do
  let encoded ← command.encode
  let length := encoded.bytes.length
  let budget :=
    if description.hasMessages then messageBudget payload.kind length description
    else documentBudget payload.kind length description
  let documents ← gather description budget payload.position 0 0 payload.remaining
  -- An empty batch while documents are left would go on for ever.
  if documents.isEmpty && payload.hasMore then refuse .payloadTooLarge
  else return ⟨payload.kind.identifier, documents⟩

end Payload
end DocWire
