import DocWire.Proofs.Connection.Exchange
import DocWire.Proofs.Connection.Stream

/-! Histories of a connection: exchanges are registered, start, and end or are cancelled, while the
server sends what it likes when it likes. -/

namespace DocWire

/-- The bytes that are still to be read over a line; there are none without a channel. -/
def Line.unread (line : Line) : Bytes := (line.connection.channel.map (·.unread)).getD []

/-- A response that an exchange ended with, and the part of the stream that it was read from. -/
structure Answered where
  sending : Sending
  first : Nat
  last : Nat
  response : Response

/-- The line of a connection, all bytes that were ever received over it, the exchanges that wait for
the channel, the one that holds it and how that one will end, and the answers so far. -/
structure History where
  line : Line
  received : Bytes
  waiting : List Sending := []
  flight : Option (Sending × Ending) := none
  answers : List Answered := []

/-- What happens to a connection. -/
inductive Happening where
  | register (request : Request) (context : Correlation)
  | start (place : Nat)
  | settle
  | cancel
  | forgo (place : Nat)
  | serve (deliveries : List Delivery)
  | close (reason : CloseReason)
  | pin (mode : PinningMode)
  | retain
  | release
  | elsewhere (change : Network → Network)

namespace History

variable (history : History)

/-- How many of the received bytes are no longer to be read. -/
def position : Nat := history.received.length - history.line.unread.length

/-- The history after the server may have added to the end of the stream. -/
def receive (line : Line) : History :=
  { history with
    line
    received := history.received ++ line.unread.drop history.line.unread.length }

/-- The history after a change of the connection that cannot fail halfway. -/
def change : Except Cause Line → History
  | .ok line => { history with line }
  | .error _ => history

/-- The history after one thing has happened; what cannot happen changes nothing. -/
def perform : Happening → History
  | .register request context =>
    match register request context history.line with
    | (.ok sending, line) => { history with line, waiting := history.waiting ++ [sending] }
    | (.error _, line) => { history with line }
  | .start place =>
    match history.flight, history.waiting[place]?, history.line.connection.channel with
    | none, some sending, some channel =>
      let (line, ending) := history.line.start sending channel
      { history.receive line with
        waiting := history.waiting.eraseIdx place
        flight := some (sending, ending) }
    -- Without a channel the exchange is over as soon as it is its turn.
    | none, some _, none => { history with waiting := history.waiting.eraseIdx place }
    | _, _, _ => history
  | .settle =>
    match history.flight with
    | none => history
    | some (sending, ending) =>
      let (result, line) := history.line.settle sending ending
      let answers := match result, ending with
        | .ok (some response), .completed _ _ rest =>
          let last := history.received.length - rest.unread.length
          history.answers ++ [⟨sending, history.position, last, response⟩]
        | _, _ => history.answers
      { history with line, flight := none, answers }
  | .cancel =>
    match history.flight with
    | none => history
    | some _ => { history with line := history.line.abandon, flight := none }
  | .forgo place => { history with waiting := history.waiting.eraseIdx place }
  | .serve deliveries =>
    match history.flight, history.line.connection.channel with
    | none, some channel =>
      let channel := channel.deliver history.line.network.now deliveries
      history.receive { history.line with
        connection := { history.line.connection with channel := some channel } }
    -- What comes while an exchange is in flight is a matter of how the server reacts to it.
    | _, _ => history
  | .close reason => { history with line := history.line.close reason }
  | .pin mode => { history with line := history.line.pin mode }
  | .retain => history.change history.line.retain
  | .release => history.change history.line.release
  | .elsewhere change =>
    { history with line := { history.line with network := change history.line.network } }

/-- An exchange that finds the channel starts on it. -/
theorem perform_start {sending : Sending} {channel : Channel} {place : Nat}
    (idle : history.flight = none) (waits : history.waiting[place]? = some sending)
    (found : history.line.connection.channel = some channel) :
    history.perform (.start place)
      = { history.receive (history.line.start sending channel).1 with
          waiting := history.waiting.eraseIdx place
          flight := some (sending, (history.line.start sending channel).2) } := by
  simp only [perform, idle, waits, found]

/-- An exchange that finds no channel is over. -/
theorem perform_start_lost {sending : Sending} {place : Nat}
    (idle : history.flight = none) (waits : history.waiting[place]? = some sending)
    (lost : history.line.connection.channel = none) :
    history.perform (.start place)
      = { history with waiting := history.waiting.eraseIdx place } := by
  simp only [perform, idle, waits, lost]

/-- An exchange that ends leaves the line as its ending has it. -/
theorem perform_settle {sending : Sending} {ending : Ending}
    (flying : history.flight = some (sending, ending)) :
    (history.perform .settle).line = (history.line.settle sending ending).2 ∧
      (history.perform .settle).flight = none := by
  simp only [perform, flying, and_self]

/-- The history after many things have happened. -/
def run (happenings : List Happening) : History := happenings.foldl perform history

/-- The history of a connection that begins now: what is on its way counts as received. -/
def begin (line : Line) : History := { line, received := line.unread }

end History

/-- The answer was read from a frame of its own in the stream: the frame is as long as its header
says, within the bounds, and it answers the very request that was sent. -/
def Answered.Sound (limit : Int32) (received : Bytes) (answer : Answered) : Prop :=
  ∃ request header body,
    Request.encode request answer.sending.id = .ok answer.sending.bytes ∧
    request.expectsResponse = true ∧
    IsFrame limit header body ((received.drop answer.first).take (answer.last - answer.first)) ∧
    answer.last ≤ received.length ∧ header.length.toInt = answer.last - answer.first ∧
    16 ≤ header.length.toInt ∧ header.length ≤ limit ∧
    header.answering = answer.sending.id ∧ Response.read header body = .ok answer.response

/-- The parts of the stream that the answers were read from follow one another without a gap, from
one place to another. -/
def Tiles : (first : Nat) → List Answered → (last : Nat) → Prop
  | first, [], last => first = last
  | first, answer :: rest, last => answer.first = first ∧ Tiles answer.last rest last

end DocWire
