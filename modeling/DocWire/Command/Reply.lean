import DocWire.Command.Basic
import DocWire.Connection.Exchange
import DocWire.Decoder
import DocWire.Document.Whole

/-! What a server replies to a command, and what its replies to writes mean. -/

namespace DocWire

/-- The cause of a field that could not be had. -/
def RawDocument.Missing.fault (key : String) (expected : ElementKind) :
    RawDocument.Missing → ResponseFault
  | .broken => .malformed
  | .absent => .missingField key
  | .otherKind actual => .otherKind key actual expected

/-- Reports a failure that the server flagged, and ends the work with it. -/
def flaggedFailure {α : Type} (address : Address) (document : RawDocument) : Exchange α := do
  -- The failure is reported only when its document can be read.
  let error := CommandError.ofDocument (← Exchange.check document.decode)
  Exchange.emit (.serverFailure address error.code error.message)
  Exchange.fail (.command error)

/-- The document of a response to a command, in either framing. -/
def replyDocument (address : Address) : Response → Exchange RawDocument
  | .message message => pure message.body
  | .reply reply =>
    match reply.documents with
    | [] => Exchange.fail (.response .noReplyDocument)
    | first :: _ => if reply.flags.queryFailure then flaggedFailure address first else pure first

namespace RawDocument

/-- Whether the document reports a success. -/
def reportsSuccess (document : RawDocument) : Bool :=
  -- Nothing but the number one is a success, in any numeric type.
  match (document.value? "ok").bind Value.whole? with
  | some number => number == 1
  | none => false

/-- Refuses a document that does not report a success. -/
def ensureSuccess (document : RawDocument) : Except Cause Unit :=
  if document.reportsSuccess then .ok ()
  else
    match document.decode with
    | .error cause => .error cause
    | .ok document => .error (.command (CommandError.ofDocument document))

/-- The cluster time that the server reports, if it can be read. -/
def clusterTime? (document : RawDocument) : Option ClusterTime := do
  -- A time that cannot be read is as good as none.
  let inner ← (document.document "$clusterTime").toOption
  ClusterTime.ofValue? inner.found

/-- The operation time that the server reports, if it can be read. -/
def operationTime? (document : RawDocument) : Option Timestamp :=
  match (document.scalar "operationTime" .timestamp).toOption with
  | some (.timestamp time increment) => some (time, increment)
  | _ => none

end RawDocument

namespace ClientSession

/-- Takes over the times that a reply reports. -/
def observe (session : ClientSession) (reply : RawDocument) : ClientSession :=
  let session := match reply.clusterTime? with
    | some time => session.advanceClusterTime time
    | none => session
  match reply.operationTime? with
  | some moment => session.advanceOperationTime moment
  | none => session

end ClientSession

/-- What became of a write. -/
structure WriteResult where
  acknowledged : Bool
  count : Nat := 0
  updatedExisting : Bool := false
  upserted : Option Value := none
deriving Repr, Inhabited

/-- The result of a write that nobody asked to acknowledge. -/
def WriteResult.unacknowledged : WriteResult := { acknowledged := false }

/-- What the reply to a write command says. -/
structure WriteReport where
  count : Nat
  upserted : Option (List Value)
  refused : Option (List WriteError)
  unconfirmed : Option WriteConcernError
deriving Repr, Inhabited

/-- The id of an upserted document. -/
def upsertedId? (value : RawValue) : Option Value := do
  let record ← Record.ofValue? ["_id"] value
  record.required? 0 ["_id"] RawValue.any?

namespace WriteReport

/-- The report that a document holds. -/
def ofRaw? (document : RawDocument) : Option WriteReport := do
  let record ←
    Record.ofValue? ["n", "upserted", "writeErrors", "writeConcernError"] document.found
  let count ← record.defaulted? 0 ["n"] 0 RawValue.natural?
  let upserted ← record.optional? 1 ["upserted"] (RawValue.items? upsertedId?)
  let refused ← record.optional? 2 ["writeErrors"] (RawValue.items? WriteError.ofValue?)
  let unconfirmed ← record.optional? 3 ["writeConcernError"] WriteConcernError.ofValue?
  return { count, upserted, refused, unconfirmed }

/-- The first failure that is reported, if there is one. -/
def failure (report : WriteReport) : Option WriteFailure :=
  -- A write that was refused counts more than one that was not confirmed.
  match report.refused.bind List.head? with
  | some error => some (.refused error)
  | none => report.unconfirmed.map .unconfirmed

/-- The result that is reported, when there is no failure. -/
def result (report : WriteReport) (isUpdate : Bool) : WriteResult :=
  let upserted := report.upserted.bind List.head?
  { acknowledged := true
    count := report.count
    -- A count without an upserted document means that the update found something.
    updatedExisting := isUpdate && 0 < report.count && upserted.isNone
    upserted }

end WriteReport

/-- What the reply to a write command comes to. -/
def writeResult (document : RawDocument) (isUpdate : Bool) : Except Cause WriteResult := do
  document.ensureSuccess
  -- Only a reply that reports a success is read for the failures of single writes.
  match WriteReport.ofRaw? document with
  | none => .error .undecodable
  | some report =>
    match report.failure with
    | some failure => .error (.write failure)
    | none => return report.result isUpdate

/-- What the reply to a question for the last error says. -/
structure LastError where
  message : Option String
  code : Option Int32
  codeName : Option String
  count : Nat
  updatedExisting : Bool
  upserted : Option Value
  timedOut : Bool
deriving Repr, Inhabited

namespace LastError

/-- The code of a failure that names none. -/
def unknownCode : Int32 := 8

/-- The code of a write that did not get as far as its write concern asked. -/
def unconfirmedCode : Int32 := 64

/-- The report that a document holds. -/
def ofRaw? (document : RawDocument) : Option LastError := do
  let names := ["err", "code", "codeName", "n", "updatedExisting", "upserted", "wtimeout"]
  let record ← Record.ofValue? names document.found
  let message ← record.optional? 0 ["err"] RawValue.text?
  let code ← record.optional? 1 ["code"] RawValue.word?
  let codeName ← record.optional? 2 ["codeName"] RawValue.text?
  let count ← record.defaulted? 3 ["n"] 0 RawValue.natural?
  let updatedExisting ← record.defaulted? 4 ["updatedExisting"] false RawValue.truth?
  let upserted ← record.optional? 5 ["upserted"] RawValue.any?
  let timedOut ← record.defaulted? 6 ["wtimeout"] false RawValue.truth?
  return { message, code, codeName, count, updatedExisting, upserted, timedOut }

/-- The failure that is reported, if there is one. -/
def failure (report : LastError) : Option WriteFailure :=
  report.message.map fun message =>
    -- The code is settled first, because it tells one failure from the other.
    let code := report.code.getD unknownCode
    if report.timedOut || code == unconfirmedCode then
      .unconfirmed { code, codeName := report.codeName.getD "", message, details := none }
    else .refused { index := 0, code, codeName := report.codeName, message }

/-- The result that is reported, when there is no failure. -/
def result (report : LastError) : WriteResult where
  acknowledged := true
  count := report.count
  updatedExisting := report.updatedExisting
  upserted := report.upserted

end LastError

/-- What the reply to a question for the last error comes to. -/
def lastErrorResult (document : RawDocument) : Except Cause WriteResult := do
  document.ensureSuccess
  match LastError.ofRaw? document with
  | none => .error .undecodable
  | some report =>
    match report.failure with
    | some failure => .error (.write failure)
    | none => return report.result

end DocWire
