import DocWire.Binding.Basic
import DocWire.Command.Run
import DocWire.Write.Basic

/-! Operations on bindings: a source is acquired, a connection made, the work done over it, and both
are released however the work ends. -/

namespace DocWire

namespace Act

/-- Runs a command on a connection; an answer is expected. -/
def command {α : Type} (connection : Nat) (use : Option SessionUse) (rule : NameRule)
    (call : CommandCall) (decoder : Decoder α) : Act α := do
  -- Names are judged before the connection is touched.
  check (checkNames rule call.command)
  match ← exchange connection (use.map (·.session)) (call.run decoder) with
  | some reply => return reply
  | none => fail (.internal .replyExpected)

/-- Runs a command with a payload on a connection, and tells what the caller's payload is
afterwards: it is lent to the command, and comes back when the command returns. -/
def commandWithPayload {α : Type} (connection : Nat) (session : Option Nat) (rule : NameRule)
    (call : CommandCall) (decoder : Decoder α) (payload : Payload) :
    Act (Except Halt (Option α) × Payload) :=
  match checkNames rule call.command with
  -- A command with a bad name never gets hold of the payload.
  | .error cause => pure (.error (.ofCause cause), payload)
  | .ok () => do
    let (result, handed) ← onLine connection session (some payload) (call.run decoder)
    -- A command that never returned keeps the payload, and a placeholder stays.
    let left := if returned result then handed.getD payload else .placeholder payload.kind
    return (result, left)

/-- Reports a failed release. -/
def noteRelease : Except Halt Unit → Act Unit
  | .ok () => pure ()
  | .error _ => emit .operationNotReleased

/-- Releases what an operation holds: the connection if there is one, and then the source. -/
def releaseLease (connection : Option Nat) (source : Source) : Act Unit := do
  -- The source is released even when the connection was not, and both are told.
  let connectionEnd ← attempt (connection.forM releaseConnection)
  let sourceEnd ← attempt source.release
  noteRelease connectionEnd
  noteRelease sourceEnd
  resume connectionEnd
  resume sourceEnd

/-- Does the work over a connection of a source, and releases both; an end of the work without an
answer counts more than a failed release. -/
def withConnection {α : Type} (source : Source) (work : Source → Nat → Act α)
    (checkout : Server → Act Nat := connectTo) : Act α := do
  match ← attempt (source.connection checkout) with
  | .error halt =>
    -- That there is no connection counts more than a source that was not released.
    let _ ← attempt (releaseLease none source)
    throw halt
  | .ok connection =>
    let result ← attempt (work source connection)
    let released ← attempt (releaseLease (some connection) source)
    match result with
    | .error halt => throw halt
    | .ok value =>
      -- A value is lost when what it took could not be given back.
      resume released
      return value

/-- Does the work over a connection of a binding. -/
def onBinding {α : Type} (binding : Binding) (intent : Intent) (work : Source → Nat → Act α)
    (checkout : Server → Act Nat := connectTo) : Act α := do
  let source ← binding.acquire intent
  withConnection source work checkout

end Act

/-- A command to run on a binding. -/
structure RunCommand where
  database : String
  command : Document
deriving Repr, Inhabited

namespace RunCommand

/-- Runs the command over a connection of a source. -/
def onConnection {α : Type} (operation : RunCommand) (preference : ReadPreference)
    (api : Option ServerApi) (decoder : Decoder α) (source : Source) (connection : Nat) : Act α :=
  Act.command connection source.sessionUse .any
    { database := operation.database
      command := operation.command
      readPreference := some preference
      api
      context := { name := some "runCommand" } }
    decoder

/-- Runs the command over a connection for reading. -/
def run {α : Type} (operation : RunCommand) (binding : Binding) (decoder : Decoder α)
    (checkout : Server → Act Nat := Act.connectTo) : Act α := do
  -- An empty command takes no source at all.
  if operation.command.isEmpty then Act.fail (.argument .emptyCommand)
  let api ← binding.api
  Act.onBinding binding .read (operation.onConnection binding.readPreference api decoder) checkout

end RunCommand

/-- A user to drop from a database. -/
structure DropUser where
  database : String
  user : String
  concern : Option WriteConcern := none
deriving Repr, Inhabited

namespace DropUser

/-- The events of the operation carry its name. -/
def context : Correlation := { name := some "dropUser" }

/-- The command, with a write concern that asks for anything. -/
def command (operation : DropUser) : Document :=
  ("dropUser", .string operation.user) ::
    ((operation.concern.filter fun concern => !concern.isEmpty).map fun concern =>
      ("writeConcern", Value.document concern.toDocument)).toList

/-- The deletion of the user from the users of the database. -/
def deletion (operation : DropUser) : Write where
  target := ⟨operation.database, "system.users"⟩
  statement := .delete [("user", .string operation.user)] false
  concern := operation.concern.getD {}
  context := context

/-- Drops the user over a connection of a source: servers without write commands keep users as plain
documents. -/
def onConnection (operation : DropUser) (api : Option ServerApi) (source : Source)
    (connection : Nat) : Act Unit := do
  let description := ((← get).connections.get connection).description
  -- Neither branch hands its answer on.
  if description.hasWriteCommands then
    let call : CommandCall :=
      { database := operation.database, command := operation.command, api, context }
    let _ ← Act.command connection source.sessionUse .any call Decoder.document
  else
    let _ ← Act.exchange connection none operation.deletion.run

/-- Drops the user over a connection for writing. -/
def run (operation : DropUser) (binding : Binding) (checkout : Server → Act Nat := Act.connectTo) :
    Act Unit := do
  let api ← binding.api
  Act.onBinding binding .write (operation.onConnection api) checkout

end DropUser
end DocWire
