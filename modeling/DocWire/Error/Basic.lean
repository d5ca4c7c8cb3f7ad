import DocWire.Cluster.Description
import DocWire.Document.Whole
import DocWire.Error.Argument
import DocWire.Namespace

/-! Errors by their causes, with one text for each. -/

namespace DocWire

/-- How the byte stream of a connection can fail. -/
inductive StreamFault where
  | endOfStream
  | brokenPipe
  | refused
  | timedOut
  | other
deriving DecidableEq, Repr, Inhabited

/-- What reports call a failure of the stream. -/
def StreamFault.name : StreamFault → String
  | endOfStream => "UnexpectedEof"
  | brokenPipe => "BrokenPipe"
  | refused => "ConnectionRefused"
  | timedOut => "TimedOut"
  | other => "Other"

/-- The kinds of objects that are counted by their references. -/
inductive Counted where
  | connection
  | binding
  | sessionBinding
  | connectionSource
deriving DecidableEq, Repr, Inhabited

/-- What error texts call a counted object. -/
def Counted.name : Counted → String
  | connection => "connection"
  | binding => "binding"
  | sessionBinding => "session binding"
  | connectionSource => "connection source"

/-- A use of an object after its time. -/
inductive LifecycleFault where
  | usedAfterRelease (what : Counted)
  | retainedAfterRelease (what : Counted)
  | releasedTooOften (what : Counted)
  | sessionUsedAfterClose
  | sessionClosedTwice
deriving DecidableEq, Repr, Inhabited

/-- The text of a use after its time. -/
def LifecycleFault.text : LifecycleFault → String
  | .usedAfterRelease what => s!"{what.name} used after its reference count reached zero"
  | .retainedAfterRelease what =>
    s!"attempted to retain a {what.name} whose reference count already reached zero"
  | .releasedTooOften what =>
    s!"attempted to decrement the reference count of a {what.name} below 0"
  | .sessionUsedAfterClose => "attempted to use a closed session"
  | .sessionClosedTwice => "session was already closed"

/-- The codes that tell one message from another. -/
inductive OpCode where
  | reply
  | update
  | insert
  | query
  | getMore
  | delete
  | killCursors
  | message
deriving DecidableEq, Repr, Inhabited

namespace OpCode

/-- The number of the code. -/
def number : OpCode → Int32
  | reply => 1
  | update => 2001
  | insert => 2002
  | query => 2004
  | getMore => 2005
  | delete => 2006
  | killCursors => 2007
  | message => 2013

/-- Every code. -/
def all : List OpCode := [reply, update, insert, query, getMore, delete, killCursors, message]

/-- The code with a number. -/
def ofNumber? (number : Int32) : Option OpCode := all.find? (·.number == number)

/-- What error texts call the code. -/
def title : OpCode → String
  | reply => "Reply"
  | update => "Update"
  | insert => "Insert"
  | query => "Query"
  | getMore => "GetMore"
  | delete => "Delete"
  | killCursors => "KillCursors"
  | message => "Message"

end OpCode

/-- What can be wrong with bytes that a server sends. -/
inductive ResponseFault where
  | malformed
  | missingField (key : String)
  | otherKind (key : String) (actual expected : ElementKind)
  | unknownOpCode (number : Int32)
  | unexpectedOpCode (code : OpCode)
  | messageTooLong (length limit : Int32)
  | messageLength (length : Int32)
  | otherRequest (expected actual : Int32)
  | documentLength (length : Int32)
  | documentCut (declared available : Nat)
  | documentCount (declared : Int32) (found : Nat)
  | checksumCut
  | bodySections
  | sizeMismatch (declared : Int32) (found : Nat)
  | sectionSize (size : Int32)
  | identifierTooLong
  | noReplyDocument
  | noFailureDocument
  | notReply
  | entryKind (field : String)
deriving DecidableEq, Repr, Inhabited

/-- The text of what is wrong; bytes that are no document have none of their own. -/
def ResponseFault.text? : ResponseFault → Option String
  | .malformed => none
  | .missingField key => some s!"error at key: \"{key}\": value not present"
  | .otherKind key actual expected =>
    some (s!"error at key: \"{key}\":  unexpected element type: {actual.name}, " ++
      s!"expected: {expected.name}")
  | .unknownOpCode number => some s!"Invalid wire protocol opcode: {number.toInt}"
  | .unexpectedOpCode code =>
    some s!"Invalid response op code, expected OP_REPLY (1) or OP_MSG (2013) but got {code.title}"
  | .messageTooLong length limit =>
    some s!"Message length {length.toInt} over maximum {limit.toInt}"
  | .messageLength length => some s!"invalid message length: {length.toInt}"
  | .otherRequest expected actual =>
    some (s!"expected a response to request {expected.toInt} but got a response to request " ++
      toString actual.toInt)
  | .documentLength length => some s!"invalid BSON document length: {length.toInt}"
  | .documentCut declared available =>
    some s!"BSON document declared {declared} bytes but only {available} were available"
  | .documentCount declared found =>
    some (s!"The server indicated that the reply would contain {declared.toInt} documents, " ++
      s!"but it instead contained {found}")
  | .checksumCut => some "OP_MSG too short for its checksum"
  | .bodySections =>
    some "an OP_MSG response must contain exactly one payload type 0 section"
  | .sizeMismatch declared found =>
    some (s!"The server indicated that the reply would be {declared.toInt} bytes long, " ++
      s!"but it instead was {found}")
  | .sectionSize size => some s!"invalid section size: {size.toInt}"
  | .identifierTooLong => some "document sequence identifier too long"
  | .noReplyDocument => some "the server replied to a command with no document"
  | .noFailureDocument => some "query failure reply without a document"
  | .notReply => some "expected an OP_REPLY in response to a legacy request, got an OP_MSG"
  | .entryKind field => some s!"{field} holds a non-document entry"

/-- A cursor of a server. -/
structure ServerCursor where
  id : Int64
  address : Address
deriving DecidableEq, Repr, Inhabited

namespace ServerCursor

/-- The cursor as a document. -/
def toDocument (cursor : ServerCursor) : Document :=
  [("id", .int64 cursor.id), ("address", .string cursor.address.text)]

/-- The cursor that a value holds. -/
def ofValue? (value : RawValue) : Option ServerCursor := do
  let record ← Record.ofValue? ["id", "address"] value
  let id ← record.required? 0 ["id"] RawValue.longWord?
  let address ← record.required? 1 ["address"] Address.ofValue?
  return { id, address }

/-- Whether two cursors have one number on one server. -/
def same (a b : ServerCursor) : Bool := a.id == b.id && a.address.same b.address

end ServerCursor

/-- A failure that a server reports for a command or a query, with the whole document. -/
structure CommandError where
  code : Int32
  codeName : String
  message : String
  labels : List String
  document : Document
deriving Repr, Inhabited

namespace CommandError

/-- The code of a failure that names none. -/
def unknownCode : Int32 := -1

/-- The text of a field that holds one. -/
def textOf? (document : Document) (key : String) : Option String :=
  match document.get? key with
  | some (.string text) => some text
  | _ => none

/-- A whole number that fits a word. -/
def codeOf? (value : Value) : Option Int32 := do
  let number ← value.whole?
  -- A code that does not fit is as good as none.
  if -0x80000000 ≤ number.toInt ∧ number.toInt ≤ 0x7fffffff then some (Int32.ofInt number.toInt)
  else none

/-- The failure that a document reports, whatever the types of its fields. -/
def ofDocument (document : Document) : CommandError where
  code := ((document.get? "code").bind codeOf?).getD unknownCode
  codeName := (textOf? document "codeName").getD ""
  -- Old servers report under another name.
  message := ((textOf? document "errmsg").orElse fun _ => textOf? document "$err").getD ""
  labels := match document.get? "errorLabels" with
    -- Labels that are no texts are passed over.
    | some (.array labels) => labels.filterMap fun label =>
      match label with
      | .string text => some text
      | _ => none
    | _ => []
  document := document

/-- The failure that a value holds, all of its fields having the right types. -/
def ofValue? (value : RawValue) : Option CommandError := do
  let record ← Record.ofValue? ["code", "codeName", "errmsg", "$err", "errorLabels"] value
  let code ← record.defaulted? 0 ["code"] unknownCode RawValue.word?
  let codeName ← record.defaulted? 1 ["codeName"] "" RawValue.text?
  let message ← record.defaulted? 2 ["errmsg", "$err"] "" RawValue.text?
  let labels ← record.defaulted? 3 ["errorLabels"] [] (RawValue.items? RawValue.text?)
  -- A failure that is read back has lost the document it came from.
  return { code, codeName, message, labels, document := [] }

/-- The code, its name and the message. -/
def text (error : CommandError) : String :=
  s!"Error code {error.code.toInt} ({error.codeName}): {error.message}"

end CommandError

/-- A write that the server refused. -/
structure WriteError where
  index : Nat
  code : Int32
  codeName : Option String
  message : String
deriving DecidableEq, Repr, Inhabited

/-- The refused write that a value holds. -/
def WriteError.ofValue? (value : RawValue) : Option WriteError := do
  let record ← Record.ofValue? ["index", "code", "codeName", "errmsg"] value
  let index ← record.defaulted? 0 ["index"] 0 RawValue.natural?
  let code ← record.required? 1 ["code"] RawValue.word?
  let codeName ← record.defaulted? 2 ["codeName"] none (Record.orNull RawValue.text?)
  let message ← record.defaulted? 3 ["errmsg"] "" RawValue.text?
  return { index, code, codeName, message }

/-- A write that did not get as far as its write concern asked. -/
structure WriteConcernError where
  code : Int32
  codeName : String
  message : String
  details : Option Document
deriving Repr, Inhabited

/-- The failed acknowledgment that a value holds. -/
def WriteConcernError.ofValue? (value : RawValue) : Option WriteConcernError := do
  let record ← Record.ofValue? ["code", "codeName", "errmsg", "errInfo"] value
  let code ← record.required? 0 ["code"] RawValue.word?
  let codeName ← record.defaulted? 1 ["codeName"] "" RawValue.text?
  let message ← record.defaulted? 2 ["errmsg"] "" RawValue.text?
  let details ← record.optional? 3 ["errInfo"] RawValue.document?
  return { code, codeName, message, details }

/-- How a write failed on the server. -/
inductive WriteFailure where
  | refused (error : WriteError)
  | unconfirmed (error : WriteConcernError)
deriving Repr, Inhabited

/-- The code of a failed write. -/
def WriteFailure.code : WriteFailure → Int32
  | refused error => error.code
  | unconfirmed error => error.code

/-- What tells a connection from every other. -/
structure ConnectionId where
  address : Address
  number : Nat
deriving DecidableEq, Repr, Inhabited

/-- The number and the server of a connection. -/
def ConnectionId.text (id : ConnectionId) : String :=
  toString id.number ++ "@" ++ id.address.text

/-- A selection that ran out of time, with the cluster as it was then. -/
structure SelectionFault where
  criteria : String
  cluster : ClusterDescription
deriving DecidableEq, Repr, Inhabited

/-- The text depends on whether any server was known at all. -/
def SelectionFault.text (fault : SelectionFault) : String :=
  -- Servers that are known but unfit are not the same as no servers.
  if fault.cluster.hasAvailableServer then
    "Server selection timeout: None of the available servers suitable for criteria " ++
      fault.criteria ++ ". Topology: " ++ fault.cluster.text
  else "Server selection timeout: No available servers. Topology: " ++ fault.cluster.text

/-- What should never happen. -/
inductive InternalFault where
  | panicked
  | commandWithoutReply
  | queryWithoutReply
  | replyExpected
  | lastErrorWithoutReply
deriving DecidableEq, Repr, Inhabited

/-- The text of what should never happen. -/
def InternalFault.text : InternalFault → String
  | .panicked => "the operation panicked"
  | .commandWithoutReply => "a command completed without a reply"
  | .queryWithoutReply => "a legacy query completed without a reply"
  | .replyExpected => "an acknowledged command completed without a reply"
  | .lastErrorWithoutReply => "getlasterror completed without a reply"

/-- The cause of an error. -/
inductive Cause where
  | argument (fault : ArgumentFault)
  | undecodable
  | command (error : CommandError)
  | cursorNotFound (cursor : ServerCursor)
  | write (failure : WriteFailure)
  | stream (fault : StreamFault)
  | response (fault : ResponseFault)
  | selection (fault : SelectionFault)
  | closed (connection : ConnectionId)
  | lifecycle (fault : LifecycleFault)
  | internal (fault : InternalFault)
deriving Repr, Inhabited

namespace Cause

/-- The text of a cause, where it has one of its own. -/
def text? : Cause → Option String
  | argument fault => some ("An invalid argument was provided: " ++ fault.text)
  | command error => some ("Command failed: " ++ error.text)
  | cursorNotFound cursor =>
    some s!"Cursor {cursor.id.toInt} not found on server {cursor.address.text}"
  | response fault => fault.text?.map
    ("The server returned an invalid reply to a database operation: " ++ ·)
  | selection fault => some fault.text
  | closed connection =>
    some s!"The connection is closed: connection {connection.text} is closed"
  | lifecycle fault => some ("Reference count violation: " ++ fault.text)
  | internal fault => some ("Internal error: " ++ fault.text)
  | undecodable | write _ | stream _ => none

/-- What reports call the kind of a cause. -/
def name : Cause → String
  | argument _ => "InvalidArgument"
  | undecodable => "BsonDeserialization"
  | command _ => "Command"
  | cursorNotFound _ => "CursorNotFound"
  | write _ => "Write"
  | stream _ => "Io"
  | response _ => "InvalidResponse"
  | selection _ => "ServerSelection"
  | closed _ => "ConnectionClosed"
  | lifecycle _ => "ResourceLifecycle"
  | internal _ => "Internal"

/-- Whether the byte stream failed. -/
def isNetwork : Cause → Bool
  | stream _ => true
  | _ => false

/-- The labels that come with a cause. -/
def labels : Cause → List String
  | stream _ => ["NetworkError"]
  | command error => error.labels
  | _ => []

/-- The code that the server gave. -/
def code? : Cause → Option Int32
  | command error => some error.code
  | write failure => some failure.code
  | _ => none

end Cause

/-- A cause and the labels put on it. -/
structure Error where
  cause : Cause
  labels : List String
deriving Repr, Inhabited

namespace Error

/-- An error with the labels of its cause. -/
def ofCause (cause : Cause) : Error := ⟨cause, cause.labels⟩

/-- An error with labels of its own and those of its cause. -/
def labelled (cause : Cause) (labels : List String) : Error := ⟨cause, labels ++ cause.labels⟩

/-- The labels in code point order, each once. -/
def sortedLabels (error : Error) : List String :=
  -- Labels form a set: order and repetition say nothing.
  (error.labels.mergeSort fun a b => a ≤ b).eraseDups

/-- The whole error as text, where its cause has one and there is at most one label. -/
def text? (error : Error) : Option String :=
  match error.sortedLabels, error.cause.text? with
  | [], some text => some ("Kind: " ++ text ++ ", labels: \x7b\x7d")
  | [label], some text => some ("Kind: " ++ text ++ ", labels: \x7b" ++ Text.quoted label ++ "\x7d")
  -- Two labels or more may be written in any order.
  | _, _ => none

end Error
end DocWire
