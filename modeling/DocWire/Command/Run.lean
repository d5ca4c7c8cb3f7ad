import DocWire.Command.Reply

/-! Running commands: they are stamped, framed and sent, and a reply is judged before it is read. -/

namespace DocWire

/-- A command to run. -/
structure CommandCall where
  database : String
  command : Document
  readPreference : Option ReadPreference := none
  api : Option ServerApi := none
  responseExpected : Bool := true
  context : Correlation := {}
deriving Repr, Inhabited

namespace Exchange

/-- Refuses a session that is closed. -/
def ensureSession : Exchange Unit := do
  match (← get).session with
  | none => pure ()
  | some session =>
    match session.ensureUsable with
    | .ok () => pure ()
    | .error fault => fail (.lifecycle fault)

/-- The command with the next batch of the payload beside it. -/
def withBatch (command : Command) : Exchange Command := do
  let line ← get
  match line.payload with
  | none => return command
  | some payload =>
    -- The budget depends on the command with all its stamps.
    let batch ← check (payload.nextBatch command.body line.connection.description)
    return { command with sequences := [batch] }

/-- Moves the payload past the batch that was sent with a command. -/
def advancePayload (command : Command) : Exchange Unit :=
  -- A command has one sequence at most, but all of them would count.
  let count := (command.sequences.flatMap (·.documents)).length
  modify fun line => { line with payload := line.payload.map (·.advance count) }

/-- Lets the session take over the times that a reply reports. -/
def observe (reply : RawDocument) : Exchange Unit :=
  modify fun line => { line with session := line.session.map (·.observe reply) }

/-- Decodes a document. -/
def decode {α : Type} (decoder : Decoder α) (document : RawDocument) : Exchange α :=
  match decoder document with
  | .ok value => pure value
  | .error halt => throw halt

/-- Decodes documents in order, up to the first that cannot be decoded. -/
def decodeAll {α : Type} (decoder : Decoder α) : List RawDocument → Exchange (List α)
  | [] => pure []
  | document :: rest => do
    let front ← decode decoder document
    let back ← decodeAll decoder rest
    return front :: back

end Exchange

namespace CommandCall

/-- The command with the stamps of the session and of the declared interface. -/
def stamped (call : CommandCall) (session : Option ClientSession) : Except Cause Command := do
  let command ← Command.ofDocument call.database call.command call.readPreference
  -- The session comes before the interface.
  let command := (command.underSession session).underApi call.api
  return { command with responseExpected := call.responseExpected }

/-- Stamps and frames the command, with the next batch of the payload. -/
def prepare (call : CommandCall) : Exchange (Command × Request) := do
  -- A closed session is told before anything that is wrong with the command.
  Exchange.ensureSession
  let line ← get
  let command ← Exchange.check (call.stamped line.session)
  let command ← Exchange.withBatch command
  let request ← Exchange.check (command.request line.connection.description)
  return (command, request)

/-- Takes note of a response to a command, and decodes one that reports a success. -/
def conclude {α : Type} (decoder : Decoder α) (command : Command) (response : Option Response) :
    Exchange (Option α) := do
  -- The batch has been sent, whatever the server says to it.
  Exchange.advancePayload command
  match response with
  | none => return none
  | some response =>
    let reply ← replyDocument (← get).connection.id.address response
    -- A failed command reports times as well.
    Exchange.observe reply
    Exchange.check reply.ensureSuccess
    return some (← Exchange.decode decoder reply)

/-- Runs the command, with as much of the payload as fits; without a response expected, it ends
when the message is sent. -/
def run {α : Type} (call : CommandCall) (decoder : Decoder α) : Exchange (Option α) := do
  let (command, request) ← call.prepare
  let response ← send request call.context
  conclude decoder command response

end CommandCall
end DocWire
