import DocWire.Cursor.Batch

/-! Giving cursors up; what the server thinks of it is reported as an event only. -/

namespace DocWire

/-- A request to give cursors of a collection up. -/
structure KillCursors where
  target : Namespace
  cursors : List Int64
  context : Correlation := {}
deriving DecidableEq, Repr, Inhabited

namespace KillCursors

/-- The body of the command. -/
def body (request : KillCursors) : Document :=
  [("killCursors", .string request.target.collection),
    ("cursors", .array (request.cursors.map .int64))]

/-- The request as a command. -/
def command (request : KillCursors) : Command where
  database := request.target.database
  body := request.body

/-- The request in the legacy framing. -/
def legacyRequest (request : KillCursors) : Request := .killCursors { cursors := request.cursors }

/-- Runs the request as a command; only a failure to reach the server counts. -/
def runCommand (request : KillCursors) : Exchange Unit := fun line =>
  match sendCommand request.command request.context line with
  | (.ok _, line) => (.ok (), line)
  | (.error (.failed error), line) =>
    -- A server that was reached may know the cursors no longer, which is what was wanted.
    if error.cause.isNetwork || line.connection.closed then (.error (.failed error), line)
    else (.ok (), line.emit (.killFailed request.target request.cursors))
  | (.error halt, line) => (.error halt, line)

/-- Runs the request in the dialect of the server; nothing is sent for no cursors. -/
def run (request : KillCursors) : Exchange Unit := do
  -- A closed connection goes unnoticed then.
  if request.cursors.isEmpty then return ()
  else if (← get).connection.description.hasFindCommand then request.runCommand
  else
    let _ ← send request.legacyRequest request.context

end KillCursors
end DocWire
