import DocWire.Cursor.Query

/-! Going on with a cursor: the next batch, in the dialect of the server. -/

namespace DocWire

/-- A request for the next batch of a cursor. -/
structure GetMore where
  target : Namespace
  cursor : Int64
  toReturn : Int32
  context : Correlation := {}
deriving DecidableEq, Repr, Inhabited

/-- The code of a failure because a cursor is gone. -/
def cursorNotFoundCode : Int32 := 43

namespace GetMore

/-- The body of the command. -/
def body (request : GetMore) : Document :=
  [("getMore", .int64 request.cursor), ("collection", .string request.target.collection)] ++
    -- The server chooses when nothing is asked for; a sign has no meaning to it.
    if request.toReturn = 0 then [] else [("batchSize", .int32 (magnitude request.toReturn))]

/-- The request as a command. -/
def command (request : GetMore) : Command where
  database := request.target.database
  body := request.body

/-- The request in the legacy framing. -/
def legacyRequest (request : GetMore) : Request :=
  .getMore { target := request.target, toReturn := request.toReturn, cursor := request.cursor }

/-- The end of the work, where a failure because the cursor is gone names the cursor. -/
def explain (cursor : ServerCursor) : Halt → Halt
  | .failed error =>
    -- The labels of the failure are lost with it.
    if error.cause.code? = some cursorNotFoundCode then .ofCause (.cursorNotFound cursor)
    else .failed error
  | halt => halt

/-- Does the work, and explains how it ends without an answer. -/
def explaining {α : Type} (cursor : ServerCursor) (work : Exchange α) : Exchange α := fun line =>
  match work line with
  | (.error halt, line) => (.error (explain cursor halt), line)
  | ended => ended

/-- Runs the request as a command. -/
def runCommand {α : Type} (request : GetMore) (decoder : Decoder α) : Exchange (Batch α) := do
  let line ← get
  let address := line.connection.id.address
  let reply ← explaining ⟨request.cursor, address⟩ (sendCommand request.command request.context)
  readBatch reply "nextBatch" request.target address decoder

/-- Runs the request in the legacy framing. -/
def runLegacy {α : Type} (request : GetMore) (decoder : Decoder α) : Exchange (Batch α) := do
  let line ← get
  let address := line.connection.id.address
  let response ← send request.legacyRequest request.context
  let reply ← Exchange.check (expectReply response)
  let results ← classify reply decoder request.cursor address
  return Batch.ofCursor request.target results reply.cursor address

/-- Runs the request in the dialect of the server. -/
def run {α : Type} (request : GetMore) (decoder : Decoder α) : Exchange (Batch α) := do
  let line ← get
  -- The beginning is told even when nothing can be sent.
  Exchange.emit (.gettingMore line.connection.id request.cursor request.target)
  let batch ←
    if line.connection.description.hasFindCommand then request.runCommand decoder
    else request.runLegacy decoder
  Exchange.emit (.gotMore request.cursor batch.results.length (!batch.hasMore))
  return batch

end GetMore
end DocWire
