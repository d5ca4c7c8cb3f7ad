import DocWire.Connection.Basic

/-! Exchanges: a request goes out over a connection, and a response may come back. An exchange is
registered, takes the channel, sends its bytes, and in the end is settled or abandoned; the parts
stand apart so that what happens between them can be told. -/

namespace DocWire

/-- How work ends without an answer. -/
inductive Halt where
  | failed (error : Error)
  | panicked
  | dropped
deriving Repr, Inhabited

/-- The end that a cause brings. -/
def Halt.ofCause (cause : Cause) : Halt := .failed (.ofCause cause)

/-- Whether work came to an end of which whoever asked for it hears. -/
def returned {α : Type} : Except Halt α → Bool
  | .error .dropped | .error .panicked => false
  | _ => true

/-- Work on a line. -/
abbrev Exchange := ExceptT Halt (StateM Line)

namespace Exchange

/-- Ends the work with a cause. -/
def fail {α : Type} (cause : Cause) : Exchange α := throw (.ofCause cause)

/-- Goes on with a value, or ends the work with a cause. -/
def check {α : Type} : Except Cause α → Exchange α
  | .ok value => pure value
  | .error cause => fail cause

/-- Reports an event. -/
def emit (event : Event) : Exchange Unit := modify (·.emit event)

end Exchange

/-- A request that may be sent: its id, its name in events, its bytes and whether it is answered. -/
structure Sending where
  id : Int32
  name : String
  bytes : Bytes
  answered : Bool
deriving DecidableEq, Repr, Inhabited

/-- How an exchange ends if it is left alone: when, and with what. -/
inductive Ending where
  | completed (time : Nat) (response : Option Response) (channel : Channel)
  | failed (time : Nat) (cause : Cause)
  | never
deriving Repr, Inhabited

/-- What a receipt comes to for the request that waits for it. -/
def Receipt.ending (receipt : Receipt) (request : Int32) : Ending :=
  match receipt with
  | .never => .never
  | .failed time cause => .failed time cause
  | .frame time header body channel =>
    match Response.answer request header body with
    | .ok response => .completed time (some response) channel
    | .error cause => .failed time cause

/-- Refuses a request that is longer than the server takes. -/
def checkLength (bytes : Bytes) (description : ConnectionDescription) : Except Cause Unit :=
  if description.messageBytes < bytes.length then
    refuse (.messageTooLarge bytes.length description.messageLimit)
  else .ok ()

/-- Gives a request its id, which is spent even when the request is refused after that. -/
def register (request : Request) (context : Correlation) : Exchange Sending := do
  let line ← get
  Exchange.check line.ensureOpen
  -- The id is spent before the request is looked at.
  let id := line.network.nextRequest
  set { line with network := { line.network with nextRequest := id + 1 } }
  let bytes ← Exchange.check (request.encode id)
  Exchange.check (checkLength bytes line.connection.description)
  -- Only a request that can go out is reported.
  Exchange.emit (.sending line.connection.id id request.name context)
  return ⟨id, request.name, bytes, request.expectsResponse⟩

namespace Line

/-- Puts the bytes on a channel that the server has not hung up, and lets the server react. -/
def transmit (line : Line) (sending : Sending) (channel : Channel) : Line × Channel :=
  ({ line with network := line.network.record line.connection.id.number sending.bytes },
    channel.deliver line.network.now (line.network.reaction sending.id))

/-- Starts an exchange on a channel, and foresees how it ends. -/
def start (line : Line) (sending : Sending) (channel : Channel) : Line × Ending :=
  let line := { line with connection := { line.connection with inFlight := true } }
  let now := line.network.now
  -- A stream that was hung up takes no bytes, so the server does not react.
  if channel.hungUp then (line, .failed now (.stream .brokenPipe))
  else
    let (line, channel) := line.transmit sending channel
    let line := { line with connection := { line.connection with channel := some channel } }
    if sending.answered then
      let limit := line.connection.description.messageLimit
      (line, (channel.receive limit line.network.waiting now).ending sending.id)
    -- Nothing is awaited for a request without a response.
    else (line, .completed now none channel)

/-- Ends an exchange that nobody waits for any more; the channel stays with the connection. -/
def abandon (line : Line) : Line :=
  -- A response may still come, so nobody can use the connection again.
  let line := line.markClosed .exchangeCancelled
  let channel := line.connection.channel.map (·.forsake line.network.now)
  { line with connection := { line.connection with inFlight := false, channel } }

/-- Ends an exchange as foreseen; a connection closed in the meantime loses its channel, and a
failure closes the connection. -/
def settle (line : Line) (sending : Sending) (ending : Ending) :
    Except Halt (Option Response) × Line :=
  match ending with
  | .never =>
    -- Time passes until whoever waits gives up.
    let line := { line with network := line.network.advance line.network.patience }
    (.error .dropped, line.abandon)
  | .completed time response channel =>
    -- A connection that was closed during the exchange loses the channel it kept until now.
    let channel := if line.connection.closed then none else some channel
    let line := { line with
      connection := { line.connection with inFlight := false, channel }
      network := line.network.advance time }
    (.ok response,
      line.emit (.exchanged line.connection.id sending.id sending.name response.isSome))
  | .failed time cause =>
    let line := { line with network := line.network.advance time }
    -- The closing is told before the failure.
    let line := (line.markClosed .exchangeFailed).dropChannel
    let line := { line with connection := { line.connection with inFlight := false } }
    (.error (.ofCause cause),
      line.emit (.exchangeFailed line.connection.id sending.id sending.name))

end Line

/-- Sends a registered request over the channel, if there still is one, and waits for its end. -/
def carryOut (sending : Sending) : Exchange (Option Response) := fun line =>
  match line.connection.channel with
  -- Another exchange has lost the channel since this one was registered.
  | none => (.error (.ofCause (.closed line.connection.id)), line)
  | some channel =>
    let (line, ending) := line.start sending channel
    line.settle sending ending

/-- Sends a request and waits for the response, if the request has one. -/
def send (request : Request) (context : Correlation) : Exchange (Option Response) := do
  let sending ← register request context
  carryOut sending

/-- Does the work, and closes the connection afterwards however the work ends. -/
def closingAfter {α : Type} (close : Bool) (work : Exchange α) : Exchange α := fun line =>
  -- The line after the work is closed, be it an answer or a failure.
  let (result, line) := work line
  (result, if close then line.close .asked else line)

/-- Does the work apart from its caller, who sees a panic as an error. -/
def apart {α : Type} (work : Exchange α) : Exchange α := fun line =>
  match work line with
  -- The line keeps what the work had done up to the panic.
  | (.error .panicked, line) => (.error (.ofCause (.internal .panicked)), line)
  | ended => ended

end DocWire
