import DocWire.Proofs.Work

/-! Exchanges over a line: what each part of an exchange sends, and what it leaves as it was. -/

namespace DocWire

namespace Exchange

variable {α : Type} (line : Line)

@[simp] theorem check_ok (value : α) : check (.ok value) line = (.ok value, line) := rfl

/-- Work that goes on has the value, and has changed nothing. -/
theorem check_eq_ok {outcome : Except Cause α} {line after : Line} {value : α}
    (checked : check outcome line = (.ok value, after)) : outcome = .ok value ∧ after = line := by
  cases outcome <;> cases checked
  exact ⟨rfl, rfl⟩

/-- A check keeps all of the line, whatever it comes to. -/
theorem keeps_check {τ : Type} {view : Line → τ} (outcome : Except Cause α) :
    Work.Keeps view (check outcome) := by
  cases outcome with
  | error cause => exact .throw _
  | ok value => exact .pure value

end Exchange

/-- What no exchange touches. -/
structure Line.Lasting where
  id : ConnectionId
  description : ConnectionDescription
  pinning : PinningMode
  references : References
  session : Option ClientSession
  payload : Option Payload

namespace Line

/-- What no exchange touches of a line. -/
def lasting (line : Line) : Lasting where
  id := line.connection.id
  description := line.connection.description
  pinning := line.connection.pinning
  references := line.connection.references
  session := line.session
  payload := line.payload

variable (line : Line)

/-- Whether the flag was set before or not, nothing but the flag is set. -/
@[simp] theorem lasting_markClosed (reason : CloseReason) :
    (line.markClosed reason).lasting = line.lasting := by
  unfold markClosed
  split <;> rfl

@[simp] theorem lasting_abandon : line.abandon.lasting = line.lasting :=
  line.lasting_markClosed .exchangeCancelled

/-- However an exchange ends, it leaves alone what is not its own. -/
@[simp] theorem lasting_settle (sending : Sending) (ending : Ending) :
    (line.settle sending ending).2.lasting = line.lasting := by
  cases ending with
  | completed time response channel => rfl
  | failed time cause => exact lasting_markClosed _ _
  | never => exact lasting_abandon _

/-- To flag a connection as closed is to send nothing. -/
@[simp] theorem sent_markClosed (reason : CloseReason) :
    (line.markClosed reason).network.sent = line.network.sent := by
  unfold markClosed
  split <;> rfl

/-- To close a connection is to send nothing. -/
theorem sent_close (reason : CloseReason) :
    (line.close reason).network.sent = line.network.sent := by
  -- The flag is set, or it was set before; in no case is there a message.
  unfold close
  split
  · rfl
  · split <;> exact line.sent_markClosed reason

/-- However an exchange ends, its end sends nothing more. -/
@[simp] theorem sent_settle (sending : Sending) (ending : Ending) :
    (line.settle sending ending).2.network.sent = line.network.sent := by
  cases ending with
  | completed time response channel => rfl
  | failed time cause => exact sent_markClosed _ _
  | never => exact sent_markClosed _ _

/-- On a stream that was hung up, an exchange starts and fails at once. -/
theorem start_hungUp {channel : Channel} (sending : Sending) (hungUp : channel.hungUp = true) :
    line.start sending channel
      = ({ line with connection := { line.connection with inFlight := true } },
        .failed line.network.now (.stream .brokenPipe)) := by
  unfold start
  exact if_pos hungUp

/-- On any other stream, the bytes go out, the server reacts, and the response is awaited if there
is one. -/
theorem start_connected {channel : Channel} (sending : Sending)
    (connected : channel.hungUp = false) :
    let delivered := channel.deliver line.network.now (line.network.reaction sending.id)
    let network := line.network.record line.connection.id.number sending.bytes
    line.start sending channel
      = ({ line with
            connection := { line.connection with inFlight := true, channel := some delivered }
            network },
          if sending.answered then
            (delivered.receive line.connection.description.messageLimit network.waiting
              line.network.now).ending sending.id
          else .completed line.network.now none delivered) := by
  unfold start
  simp only [connected, Bool.false_eq_true, if_false, transmit]
  split <;> rfl

@[simp] theorem lasting_start (sending : Sending) (channel : Channel) :
    (line.start sending channel).1.lasting = line.lasting := by
  cases hungUp : channel.hungUp with
  | true =>
    rw [line.start_hungUp sending hungUp]
    rfl
  | false =>
    rw [line.start_connected sending hungUp]
    rfl

/-- Only an exchange that is completed ends with an answer, and its end sends nothing more. -/
theorem settle_ok {sending : Sending} {ending : Ending} {response : Option Response} {after : Line}
    (settled : line.settle sending ending = (.ok response, after)) :
    (∃ time channel, ending = .completed time response channel) ∧
      after.network.sent = line.network.sent := by
  -- A failure is no answer, and neither is an exchange that nobody waits for.
  cases ending with
  | completed time found channel =>
    cases settled
    exact ⟨⟨time, channel, rfl⟩, rfl⟩
  | failed time cause => cases settled
  | never => cases settled

/-- An exchange that is to be completed has put its bytes on the wire when it starts, once. -/
theorem sent_start {sending : Sending} {channel rest : Channel} {time : Nat}
    {response : Option Response}
    (complete : (line.start sending channel).2 = .completed time response rest) :
    (line.start sending channel).1.network.sent
      = line.network.sent ++ [(line.connection.id.number, sending.bytes)] := by
  cases hungUp : channel.hungUp with
  | true =>
    rw [line.start_hungUp sending hungUp] at complete
    cases complete
  | false =>
    rw [line.start_connected sending hungUp]
    rfl

end Line

variable {line after : Line} {request : Request} {context : Correlation} {sending : Sending}
  {response : Option Response}

/-- Whatever comes of giving a request its id, no more happens than that one id is spent at most,
and surely one by a request that gets it, and that the request is reported. -/
theorem register_spends (line : Line) (request : Request) (context : Correlation) :
    ∃ spent events, spent ≤ 1 ∧
      ((register request context line).1.isOk = true → spent = 1) ∧
      (register request context line).2 = { line with network := { line.network with
        nextRequest := line.network.nextRequest + .ofNat spent, events } } := by
  simp only [register, Work.bind_apply, Work.get_apply]
  -- The id is spent as soon as the connection is found open.
  cases line.ensureOpen with
  | error cause =>
    refine ⟨0, line.network.events, Nat.zero_le _, nofun, ?_⟩
    rw [show line.network.nextRequest + .ofNat 0 = line.network.nextRequest from Int32.add_zero _]
    rfl
  | ok _ =>
    simp only [Exchange.check_ok, Work.set_apply]
    cases request.encode line.network.nextRequest with
    | error cause => exact ⟨1, _, Nat.le_refl _, fun _ => rfl, rfl⟩
    | ok bytes =>
      simp only [Exchange.check_ok]
      -- The length is judged before the request is reported.
      cases checkLength bytes line.connection.description with
      | error cause => exact ⟨1, _, Nat.le_refl _, fun _ => rfl, rfl⟩
      | ok _ => exact ⟨1, _, Nat.le_refl _, fun _ => rfl, rfl⟩

/-- To give a request its id is a matter of the network alone, and nothing is sent yet. -/
theorem register_network (line : Line) (request : Request) (context : Correlation) :
    ∃ network, (register request context line).2 = { line with network } ∧
      network.sent = line.network.sent := by
  obtain ⟨spent, events, -, -, same⟩ := register_spends line request context
  exact ⟨_, same, rfl⟩

/-- A request that was registered goes out over an open connection, in its bytes under the next
id. -/
theorem register_ok (registered : register request context line = (.ok sending, after)) :
    sending.id = line.network.nextRequest ∧ line.ensureOpen = .ok () ∧
      request.encode sending.id = .ok sending.bytes ∧
      sending.answered = request.expectsResponse := by
  obtain ⟨_, _, found, registered⟩ := Work.bind_ok registered
  cases found
  -- The connection has to be open before an id is spent.
  obtain ⟨_, _, ready, registered⟩ := Work.bind_ok registered
  obtain ⟨_, _, spent, registered⟩ := Work.bind_ok registered
  cases spent
  obtain ⟨_, _, encoded, registered⟩ := Work.bind_ok registered
  obtain ⟨_, _, judged, registered⟩ := Work.bind_ok registered
  obtain ⟨_, _, told, registered⟩ := Work.bind_ok registered
  cases registered
  exact ⟨rfl, (Exchange.check_eq_ok ready).1, (Exchange.check_eq_ok encoded).1, rfl⟩

/-- Without a channel, nothing is sent. -/
theorem carryOut_none (lost : line.connection.channel = none) :
    carryOut sending line = (.error (.ofCause (.closed line.connection.id)), line) := by
  unfold carryOut
  rw [lost]

/-- An exchange over a channel starts, and ends as foreseen. -/
theorem carryOut_some {channel : Channel} (found : line.connection.channel = some channel) :
    carryOut sending line
      = (line.start sending channel).1.settle sending (line.start sending channel).2 := by
  unfold carryOut
  rw [found]

/-- An exchange that was completed has put the bytes of its request on the wire, once. -/
theorem sent_carryOut (done : carryOut sending line = (.ok response, after)) :
    after.network.sent = line.network.sent ++ [(line.connection.id.number, sending.bytes)] := by
  -- Without a channel there is no answer.
  cases found : line.connection.channel with
  | none =>
    rw [carryOut_none found] at done
    cases done
  | some channel =>
    rw [carryOut_some found] at done
    obtain ⟨⟨time, rest, complete⟩, same⟩ := Line.settle_ok _ done
    rw [same, Line.sent_start line complete]

@[simp] theorem lasting_carryOut (sending : Sending) (line : Line) :
    (carryOut sending line).2.lasting = line.lasting := by
  cases found : line.connection.channel with
  | none => rw [carryOut_none found]
  | some channel => rw [carryOut_some found, Line.lasting_settle, Line.lasting_start]

/-- Whatever comes of a request, all that no exchange touches is what it was. -/
theorem lasting_send (request : Request) (context : Correlation) :
    Work.Keeps Line.lasting (send request context) := by
  refine .bind (fun line => ?_) fun sending => lasting_carryOut sending
  -- To get an id is a matter of the network alone.
  obtain ⟨network, same, -⟩ := register_network line request context
  rw [same]
  rfl

/-- A payload is untouched when a request is sent. -/
theorem payload_send (request : Request) (context : Correlation) (line : Line) :
    (send request context line).2.payload = line.payload :=
  congrArg Line.Lasting.payload (lasting_send request context line)

/-- A request whose exchange was completed went out once, in its bytes under an id. -/
theorem send_ok (done : send request context line = (.ok response, after)) :
    ∃ id bytes, request.encode id = .ok bytes ∧
      after.network.sent = line.network.sent ++ [(line.connection.id.number, bytes)] := by
  obtain ⟨sending, middle, registered, carried⟩ := Work.bind_ok done
  obtain ⟨network, same, quiet⟩ := register_network line request context
  rw [registered] at same
  cases same
  refine ⟨sending.id, sending.bytes, (register_ok registered).2.2.1, ?_⟩
  rw [sent_carryOut carried, quiet]

/-- What goes out in an exchange is its message, once, or nothing. -/
theorem sent_carryOut_cases (sending : Sending) (line : Line) :
    (carryOut sending line).2.network.sent = line.network.sent ∨
      (carryOut sending line).2.network.sent
        = line.network.sent ++ [(line.connection.id.number, sending.bytes)] := by
  cases found : line.connection.channel with
  | none =>
    rw [carryOut_none found]
    exact .inl rfl
  | some channel =>
    rw [carryOut_some found, Line.sent_settle]
    -- A stream that was hung up takes nothing, and any other takes the message.
    cases hungUp : channel.hungUp with
    | true =>
      rw [line.start_hungUp sending hungUp]
      exact .inl rfl
    | false =>
      rw [line.start_connected sending hungUp]
      exact .inr rfl

/-- What goes out when a request is sent is the request, once, or nothing. -/
theorem sent_send (request : Request) (context : Correlation) (line : Line) :
    (send request context line).2.network.sent = line.network.sent ∨
      ∃ id bytes, request.encode id = .ok bytes ∧ (send request context line).2.network.sent
        = line.network.sent ++ [(line.connection.id.number, bytes)] := by
  -- To register a request sends nothing; only the start of its exchange may.
  obtain ⟨network, same, quiet⟩ := register_network line request context
  simp only [send, Work.bind_apply]
  rcases registered : register request context line with ⟨halt | sending, middle⟩ <;>
    rw [registered] at same <;> obtain rfl : middle = { line with network } := same
  · exact .inl quiet
  · obtain ⟨-, -, encoded, -⟩ := register_ok registered
    rcases sent_carryOut_cases sending { line with network } with kept | posted
    · exact .inl (kept.trans quiet)
    · exact .inr ⟨_, sending.bytes, encoded, posted.trans (by rw [quiet])⟩

end DocWire
