import DocWire.Command.Run

/-! Overlaps: what happens to a connection while an exchange over it is in flight. Exchanges take
turns; the one in flight ends when it would end if it were left alone, or is cancelled before. -/

namespace DocWire

/-- What is done to the connection meanwhile. -/
inductive Meanwhile where
  | close
  | release
  | retain
  | ping
deriving DecidableEq, Repr, Inhabited

/-- Something to do a while after what was done before it. -/
structure MeanwhileStep where
  act : Meanwhile
  after : Nat
deriving DecidableEq, Repr, Inhabited

/-- What came of something done meanwhile. -/
inductive MeanwhileResult where
  | standing (count : Nat) (closed : Bool)
  | counted (succeeded : Bool)
  | pinged (result : Except Halt (Option Decoded))

/-- What came of the exchange that was in flight. -/
inductive FirstResult where
  | ended (result : Except Halt (Option Decoded))
  | cancelled

/-- What came of an overlap. -/
structure OverlapResult where
  first : FirstResult
  others : List MeanwhileResult

/-- An exchange in flight. Its turns are the moments at which it starts or goes on. -/
structure InFlight where
  command : Command
  sending : Sending
  ending : Ending
  turns : List Nat
  cancelAt : Nat
  closes : Bool

/-- The first exchange: still in flight, or over. -/
inductive First where
  | inFlight (exchange : InFlight)
  | settled (result : FirstResult)

/-- The command that is run first or meanwhile. -/
def pingCall (number : Int32) : CommandCall where
  database := "admin"
  command := [("ping", .int32 number)]

/-- When an exchange ends if it is left alone. -/
def Ending.time? : Ending → Option Nat
  | .completed time _ _ => some time
  | .failed time _ => some time
  | .never => none

namespace Exchange

/-- Does the work, and hands on how it ended. -/
def attempt {α : Type} (work : Exchange α) : Exchange (Except Halt α) := fun line =>
  let (result, line) := work line
  (.ok result, line)

/-- Closes the connection, if that is asked for. -/
def closeIf (closes : Bool) : Exchange Unit :=
  modify fun line => if closes then line.close .asked else line

/-- Tells whether an exchange holds the channel. -/
def setInFlight (held : Bool) : Exchange Unit :=
  modify fun line => { line with connection := { line.connection with inFlight := held } }

/-- Lets time pass up to a moment. -/
def advance (time : Nat) : Exchange Unit :=
  modify fun line => { line with network := line.network.advance time }

/-- Ends the work because nobody waits any longer, and abandons the exchange in flight, if there
is one. -/
def dropWork {α : Type} : Exchange α := do
  advance (← get).network.patience
  modify fun line => if line.connection.inFlight then line.abandon else line
  throw .dropped

end Exchange

/-- Prepares a command, and registers the request that carries it. -/
def CommandCall.enlist (call : CommandCall) : Exchange (Command × Sending) := do
  let (command, request) ← call.prepare
  let sending ← register request call.context
  return (command, sending)

namespace InFlight

/-- When the exchange ends, and whether by being cancelled; of the two at one moment, it ends by
itself. -/
def moment (exchange : InFlight) : Nat × Bool :=
  match exchange.ending.time? with
  | some time => if time ≤ exchange.cancelAt then (time, false) else (exchange.cancelAt, true)
  | none => (exchange.cancelAt, true)

/-- Whether the exchange goes on before what is done meanwhile at a moment: the two alternate in
who is first, from one moment to the next at which either of them goes on. -/
def leads (exchange : InFlight) (done : List Nat) (time : Nat) : Bool :=
  -- Things that happen at one moment are one turn.
  let turns := ((exchange.turns ++ done).filter (· < time)).eraseDups
  turns.length % 2 == 0

/-- Whether the exchange is over when something is done at a moment. -/
def endsBefore (exchange : InFlight) (done : List Nat) (time : Nat) : Bool :=
  let ended := exchange.moment.1
  ended < time || (ended == time && exchange.leads done time)

/-- Ends the exchange; whoever waits for the channel holds it from then on. -/
def finish (exchange : InFlight) (awaited : Bool) : Exchange FirstResult := do
  let (time, cancelled) := exchange.moment
  if (← get).network.patience < time then Exchange.dropWork
  else if cancelled then
    -- The one who waits takes the channel before the first closes the connection.
    Exchange.advance time
    modify Line.abandon
    Exchange.setInFlight awaited
    Exchange.closeIf exchange.closes
    return .cancelled
  else
    -- The channel is handed on as soon as the response is there, before it is read.
    let result ← Exchange.attempt do
      let response ← (fun line => line.settle exchange.sending exchange.ending)
      Exchange.setInFlight awaited
      CommandCall.conclude Decoder.document exchange.command response
    Exchange.setInFlight awaited
    Exchange.closeIf exchange.closes
    return .ended result

end InFlight

namespace First

/-- Starts the first exchange. -/
def start (cancelAfter : Nat) (closes : Bool) : Exchange First := do
  let registered ← Exchange.attempt (pingCall 1).enlist
  let line ← get
  match registered, line.connection.channel with
  | .error halt, _ =>
    Exchange.closeIf closes
    return .settled (.ended (.error halt))
  | .ok _, none =>
    Exchange.closeIf closes
    return .settled (.ended (.error (.ofCause (.closed line.connection.id))))
  | .ok (command, sending), some channel =>
    let now := line.network.now
    let (started, ending) := line.start sending channel
    set started
    let coming := (started.connection.channel.map (·.coming)).getD []
    let turns := now :: arrivals now coming
    -- The time until the cancellation runs from the start.
    return .inFlight { command, sending, ending, turns, cancelAt := now + cancelAfter, closes }

/-- Ends the first exchange if it is over when something is done at a moment. -/
def upTo (first : First) (done : List Nat) (time : Nat) : Exchange First :=
  match first with
  | settled _ => pure first
  | inFlight exchange =>
    if exchange.endsBefore done time then return .settled (← exchange.finish false)
    else pure first

/-- Ends the first exchange, if it is not over. -/
def finish (first : First) (awaited : Bool) : Exchange FirstResult :=
  match first with
  | settled result => pure result
  | inFlight exchange => exchange.finish awaited

/-- Runs another command, which waits its turn. -/
def ping (first : First) : Exchange (MeanwhileResult × First) := do
  match ← Exchange.attempt (pingCall 2).enlist with
  -- A command that is refused does not wait for the channel.
  | .error halt => return (.pinged (.error halt), first)
  | .ok (command, sending) =>
    let result ← first.finish true
    Exchange.setInFlight false
    let reply ← Exchange.attempt do
      let response ← carryOut sending
      CommandCall.conclude Decoder.document command response
    match reply with
    -- A command that is never answered keeps everything after it from happening.
    | .error .dropped => throw .dropped
    | reply => return (.pinged reply, .settled result)

/-- Does one thing meanwhile. -/
def perform (first : First) : Meanwhile → Exchange (MeanwhileResult × First)
  | .close => do
    modify (·.close .asked)
    let line ← get
    return (.standing line.connection.references.count line.connection.closed, first)
  | .release => do
    match (← get).release with
    | .ok line =>
      set line
      return (.counted true, first)
    | .error _ => return (.counted false, first)
  | .retain => do
    match (← get).retain with
    | .ok line =>
      set line
      return (.counted true, first)
    | .error _ => return (.counted false, first)
  | .ping => first.ping

/-- Does things meanwhile, each a while after the one before, given the moments at which things
were done. -/
def performAll (first : First) (done : List Nat) : List MeanwhileStep → Exchange OverlapResult
  | [] => return ⟨← first.finish false, []⟩
  | step :: rest => do
    let time := (← get).network.now + step.after
    let first ← first.upTo done time
    if (← get).network.patience < time then Exchange.dropWork
    else
      Exchange.advance time
      let (result, first) ← first.perform step.act
      let ⟨ended, others⟩ ← first.performAll (time :: done) rest
      return ⟨ended, result :: others⟩

end First

/-- The milliseconds, an hour of them, after which an exchange is cancelled that nobody cancels
before. -/
def longestExchange : Nat := 3600000

/-- Runs a command, and does things to its connection meanwhile. -/
def overlap (steps : List MeanwhileStep) (cancelAfter : Option Nat) (closes : Bool) :
    Exchange OverlapResult := do
  let first ← First.start (cancelAfter.getD longestExchange) closes
  first.performAll [] steps

end DocWire
