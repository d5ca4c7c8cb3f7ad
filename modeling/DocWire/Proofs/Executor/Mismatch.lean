import DocWire.Proofs.Cursor.Fetch
import DocWire.Proofs.Executor.Unanswered

/-! Responses that do not fit the request: of a code that the request does not take, or to another
request. All of them end the operation with the same kind of failure, but where a message is taken
off the stream in place of a reply, the connection is left open. -/

namespace DocWire

/-- What comes back when the next request goes out over a channel of the line. -/
def Line.receipt (line : Line) (channel : Channel) : Receipt :=
  let reaction := line.network.reaction line.network.nextRequest
  (channel.deliver line.network.now reaction).receive line.connection.description.messageLimit
    line.network.waiting line.network.now

/-- What comes back does not fit the request with the id: its code is unknown or that of a request,
it answers another request, or it is a message where only a reply is taken. -/
inductive Mismatch (repliesOnly : Bool) (id : Int32) : Receipt → ResponseFault → Prop where
  | unknown (time : Nat) (number : Int32) :
    Mismatch repliesOnly id (.failed time (.response (.unknownOpCode number)))
      (.unknownOpCode number)
  | request (time : Nat) {header : Header} (body : Bytes) (rest : Channel)
    (strange : header.code ≠ .reply ∧ header.code ≠ .message) :
    Mismatch repliesOnly id (.frame time header body rest) (.unexpectedOpCode header.code)
  | other (time : Nat) {header : Header} {body : Bytes} (rest : Channel) {response : Response}
    (read : Response.read header body = .ok response) (elsewhere : header.answering ≠ id) :
    Mismatch repliesOnly id (.frame time header body rest) (.otherRequest id header.answering)
  | message (time : Nat) {header : Header} {body : Bytes} (rest : Channel) {message : Message}
    (only : repliesOnly = true) (read : Response.read header body = .ok (.message message))
    (here : header.answering = id) :
    Mismatch repliesOnly id (.frame time header body rest) .notReply

/-- An exchange fails over what does not fit, except that it takes any message for an answer. -/
theorem Mismatch.ending {repliesOnly : Bool} {id : Int32} {receipt : Receipt}
    {fault : ResponseFault} (mismatch : Mismatch repliesOnly id receipt fault) :
    (fault ≠ .notReply ∧ ∃ time, receipt.ending id = .failed time (.response fault)) ∨
      (fault = .notReply ∧ repliesOnly = true ∧ ∃ time message rest,
        receipt.ending id = .completed time (some (.message message)) rest) := by
  cases mismatch with
  | unknown time number => exact .inl ⟨by simp, time, rfl⟩
  | @request time header body rest strange =>
    -- A frame with a code that is known, but no response's, is not read at all.
    have unread : Response.answer id header body
        = .error (.response (.unexpectedOpCode header.code)) := by
      unfold Response.answer Response.read
      cases code : header.code with
      | reply => exact absurd code strange.1
      | message => exact absurd code strange.2
      | _ => rfl
    refine .inl ⟨by simp, time, ?_⟩
    simp only [Receipt.ending, unread]
  | @other time header body rest response read elsewhere =>
    have unanswered : Response.answer id header body
        = .error (.response (.otherRequest id header.answering)) := by
      unfold Response.answer
      rw [read]
      exact if_neg elsewhere
    refine .inl ⟨by simp, time, ?_⟩
    simp only [Receipt.ending, unanswered]
  | @message time header body rest content only read here =>
    have taken : Response.answer id header body = .ok (.message content) := by
      unfold Response.answer
      rw [read]
      exact if_pos here
    refine .inr ⟨rfl, only, time, content, rest, ?_⟩
    simp only [Receipt.ending, taken]

section Sending

variable {line : Line} {request : Request} {context : Correlation} {channel : Channel}
  {time : Nat}

/-- A request with a response, over a channel that is connected, comes to what comes back. -/
theorem send_receipt (takes : line.Takes request) (answered : request.expectsResponse = true)
    (found : line.connection.channel = some channel) (context : Correlation) :
    ∃ (sending : Sending) (middle : Line), middle.connection.closed = false ∧
      send request context line
        = middle.settle sending ((line.receipt channel).ending line.network.nextRequest) := by
  obtain ⟨other, known, connected⟩ := takes.connected
  obtain rfl : other = channel := Option.some.inj (known.symm.trans found)
  obtain ⟨sending, nextRequest, events, carried, id, awaited⟩ :=
    send_admitted takes.admits context
  rw [answered] at awaited
  let spent : Line := { line with network := { line.network with nextRequest, events } }
  have held : spent.connection.channel = some other := known
  refine ⟨sending, (spent.start sending other).1, ?_, ?_⟩
  · exact (spent.closed_start sending other).trans takes.admits.opened
  · -- Neither the id that was spent nor the report has a part in what comes back.
    have foreseen : (spent.start sending other).2
        = (line.receipt other).ending line.network.nextRequest := by
      rw [spent.start_connected sending connected]
      simp only [awaited, if_true, id]
      rfl
    rw [carried, carryOut_some held, foreseen]

/-- A legacy request leaves alone what no exchange touches. -/
theorem Write.lasting_sendLegacy (write : Write) : Work.Keeps Line.lasting write.sendLegacy :=
  .bind (Exchange.keeps_check _) fun request => .bind (lasting_send request _) fun _ => .pure _

/-- A legacy request does not change with whom the line is connected. -/
theorem Write.partner_sendLegacy {write : Write} {line middle : Line} {result : Except Halt Unit}
    (posted : write.sendLegacy line = (result, middle)) :
    middle.connection.id = line.connection.id ∧
      middle.connection.description = line.connection.description := by
  have kept := write.lasting_sendLegacy line
  rw [posted] at kept
  exact ⟨congrArg Line.Lasting.id kept, congrArg Line.Lasting.description kept⟩

/-- A request fails as what comes back does, and the connection is closed then. -/
theorem send_failing (takes : line.Takes request) (answered : request.expectsResponse = true)
    (found : line.connection.channel = some channel) (context : Correlation) {cause : Cause}
    (failed : (line.receipt channel).ending line.network.nextRequest = .failed time cause) :
    ∃ after, send request context line = (.error (.ofCause cause), after) ∧
      after.connection.closed = true := by
  obtain ⟨sending, middle, -, sent⟩ := send_receipt takes answered found context
  rw [failed] at sent
  have closed := middle.closed_settle sending (.failed time cause)
  exact ⟨_, sent, closed⟩

/-- A request is answered with a response that comes back, and the connection stays open. -/
theorem send_completing (takes : line.Takes request) (answered : request.expectsResponse = true)
    (found : line.connection.channel = some channel) (context : Correlation)
    {response : Option Response} {rest : Channel}
    (completed : (line.receipt channel).ending line.network.nextRequest
      = .completed time response rest) :
    ∃ after, send request context line = (.ok response, after) ∧
      after.connection.closed = false := by
  obtain ⟨sending, middle, opened, sent⟩ := send_receipt takes answered found context
  rw [completed] at sent
  exact ⟨_, sent, opened⟩

/-- A command over a connection fails when its exchange does. -/
theorem sendCommand_failing {command : Command} {cause : Cause}
    {last : Line}
    (framed : command.request line.connection.description = .ok request)
    (failed : send request context line = (.error (.ofCause cause), last)) :
    sendCommand command context line = (.error (.ofCause cause), last) := by
  simp only [sendCommand, Work.bind_apply, Work.get_apply, framed, Exchange.check_ok, failed]

end Sending

namespace Executor

variable {α : Type}

/-- Whether the one response that the operation takes is a reply of the legacy framing. -/
def repliesOnly (executor : Executor α) (description : ConnectionDescription) : Bool :=
  match executor with
  | query .. | getMore .. => !description.hasFindCommand
  | write _ | command .. | killCursors _ => false

/-- The operation gets as far as asking something, over a line on which everything before is done:
a legacy write has been sent, and to go on with a cursor has been told. -/
def Asks (executor : Executor α) (line : Line) (request : Request) (context : Correlation)
    (middle : Line) : Prop :=
  let description := line.connection.description
  match executor with
  | write made =>
    made.judge description = .ok () ∧ context = made.context ∧
      if description.hasWriteCommands then
        made.command.request description = .ok request ∧ middle = line
      else
        made.concern.isAcknowledged = true ∧ made.sendLegacy line = (.ok (), middle) ∧
          made.lastErrorCommand.request description = .ok request
  | command rule call _ =>
    checkNames rule call.command = .ok () ∧ context = call.context ∧ middle = line ∧
      ∃ command, call.prepare line = (.ok (command, request), line)
  | query asked _ =>
    context = asked.context ∧ middle = line ∧
      if description.hasFindCommand then asked.command.request description = .ok request
      else asked.legacyRequest description.type = .ok request
  | getMore asked _ =>
    context = asked.context ∧
      middle = line.emit (.gettingMore line.connection.id asked.cursor asked.target) ∧
      if description.hasFindCommand then asked.command.request description = .ok request
      else request = asked.legacyRequest
  | killCursors asked =>
    context = asked.context ∧ middle = line ∧ asked.cursors.isEmpty = false ∧
      description.hasFindCommand = true ∧ asked.command.request description = .ok request

variable {executor : Executor α} {line middle last : Line} {request : Request}
  {context : Correlation} {cause : Cause}

/-- A write fails when the exchange of its command fails, or the exchange of the question after its
legacy request. -/
theorem write_failing {made : Write} (asks : (write made).Asks line request context middle)
    (failed : send request context middle = (.error (.ofCause cause), last)) :
    made.run line = (.error (.ofCause cause), last) := by
  obtain ⟨judged, rfl, asks⟩ := asks
  rw [Write.run_apply, judged]
  dsimp only
  split at asks
  · obtain ⟨framed, rfl⟩ := asks
    rename_i commands
    rw [if_pos commands]
    simp only [Write.runCommand, Work.bind_apply, Work.get_apply, framed, Exchange.check_ok,
      failed]
  · obtain ⟨acknowledged, posted, framed⟩ := asks
    rename_i legacy
    -- The legacy request does not change what the server is known to understand.
    have same := (Write.partner_sendLegacy posted).2
    rw [if_neg legacy]
    simp only [Write.runLegacy, Write.confirmLegacy, Work.bind_apply, posted, acknowledged,
      if_true, Work.get_apply, same, framed, Exchange.check_ok, failed]

theorem query_failing {asked : Query} {decoder : Decoder α}
    (asks : (query asked decoder).Asks line request context middle)
    (failed : send request context middle = (.error (.ofCause cause), last)) :
    asked.run decoder line = (.error (.ofCause cause), last) := by
  obtain ⟨rfl, rfl, asks⟩ := asks
  simp only [Query.run, Work.bind_apply, Work.get_apply]
  split at asks
  · rename_i commands
    rw [if_pos commands]
    simp only [Query.runCommand, Work.bind_apply, Work.get_apply,
      sendCommand_failing asks failed]
  · rename_i legacy
    rw [if_neg legacy]
    simp only [Query.runLegacy, Work.bind_apply, Work.get_apply, asks, Exchange.check_ok, failed]

/-- A failure without a code is not explained as anything else. -/
theorem explain_codeless (cursor : ServerCursor) (codeless : cause.code? = none) :
    GetMore.explain cursor (.ofCause cause) = .ofCause cause := by
  unfold GetMore.explain Halt.ofCause
  dsimp only
  rw [show (Error.ofCause cause).cause.code? = none from codeless]
  rfl

theorem getMore_failing {asked : GetMore} {decoder : Decoder α}
    (asks : (getMore asked decoder).Asks line request context middle)
    (failed : send request context middle = (.error (.ofCause cause), last))
    (codeless : cause.code? = none) :
    asked.run decoder line = (.error (.ofCause cause), last) := by
  obtain ⟨rfl, rfl, asks⟩ := asks
  simp only [GetMore.run, Work.bind_apply, Work.get_apply, Exchange.emit, Work.modify_apply]
  split at asks
  · rename_i commands
    -- That the request is told of beforehand changes nothing that the command depends on.
    have failing : sendCommand asked.command asked.context
        (line.emit (.gettingMore line.connection.id asked.cursor asked.target))
          = (.error (.ofCause cause), last) := by
      apply sendCommand_failing _ failed
      exact asks
    rw [if_pos commands]
    simp only [GetMore.runCommand, GetMore.explaining, Work.bind_apply, Work.get_apply, failing,
      explain_codeless _ codeless]
  · subst asks
    rename_i legacy
    rw [if_neg legacy]
    simp only [GetMore.runLegacy, Work.bind_apply, Work.get_apply, failed]

/-- Cursors are not given up when the exchange of the command fails and closes the connection. -/
theorem killCursors_failing {asked : KillCursors}
    (asks : (killCursors asked).Asks line request context middle)
    (failed : send request context middle = (.error (.ofCause cause), last))
    (closed : last.connection.closed = true) :
    asked.run line = (.error (.ofCause cause), last) := by
  obtain ⟨rfl, rfl, some, commands, framed⟩ := asks
  simp only [KillCursors.run, some, Bool.false_eq_true, if_false, Work.bind_apply,
    Work.get_apply, commands, if_true]
  -- A failure that closed the connection is not one to pass over.
  simp only [KillCursors.runCommand, sendCommand_failing framed failed, Halt.ofCause, closed,
    Bool.or_true, if_true]

/-- An operation fails when the exchange of what it asks fails and closes the connection, unless
the failure is one that is explained by a cursor that is gone. -/
theorem run_failing (asks : executor.Asks line request context middle)
    (failed : send request context middle = (.error (.ofCause cause), last))
    (closed : last.connection.closed = true) (codeless : cause.code? = none) :
    executor.run line = (.error (.ofCause cause), last) := by
  -- Each kind fails in its own way, and two of them look at the failure before they pass it on.
  cases executor with
  | write made => exact write_failing asks failed
  | command rule call decoder =>
    obtain ⟨named, rfl, rfl, command, prepared⟩ := asks
    simp only [run, CommandCall.run, Work.bind_apply, named, Exchange.check_ok, prepared, failed]
  | query asked decoder => exact query_failing asks failed
  | getMore asked decoder => exact getMore_failing asks failed codeless
  | killCursors asked => exact killCursors_failing asks failed closed

/-- An operation that takes a reply only fails over a message, and leaves the connection as it is
when the message is there. -/
theorem run_notReply (asks : executor.Asks line request context middle)
    (only : executor.repliesOnly line.connection.description = true) {message : Message}
    (sent : send request context middle = (.ok (some (.message message)), last)) :
    executor.run line = (.error (.ofCause (.response .notReply)), last) := by
  -- The two legacy requests that a reply answers, and no other kind, look for nothing but a reply.
  cases executor with
  | write made => cases only
  | command rule call decoder => cases only
  | killCursors asked => cases only
  | query asked decoder =>
    have legacy : line.connection.description.hasFindCommand = false := by
      simpa [repliesOnly] using only
    obtain ⟨rfl, rfl, asks⟩ := asks
    rw [legacy] at asks
    simp only [run, Query.run, Query.runLegacy, Work.bind_apply, Work.get_apply, legacy,
      Bool.false_eq_true, if_false] at asks ⊢
    simp only [asks, Exchange.check_ok, sent]
    rfl
  | getMore asked decoder =>
    have legacy : line.connection.description.hasFindCommand = false := by
      simpa [repliesOnly] using only
    obtain ⟨rfl, rfl, asks⟩ := asks
    rw [legacy] at asks
    simp only [Bool.false_eq_true, if_false] at asks
    subst asks
    simp only [run, GetMore.run, GetMore.runLegacy, Work.bind_apply, Work.get_apply, Exchange.emit,
      Work.modify_apply, legacy, Bool.false_eq_true, if_false, sent]
    rfl

/-- A response that does not fit what an operation asks ends the operation with the failure that
tells so. The connection is closed then, except when the response is a message in place of a reply:
in this case it is closed only if that was asked for. -/
theorem mismatch_outcome (executor : Executor α) (closes : Bool) (line middle : Line)
    (request : Request) (context : Correlation) (channel : Channel) (fault : ResponseFault)
    (asks : executor.Asks line request context middle)
    (answered : request.expectsResponse = true) (takes : middle.Takes request)
    (found : middle.connection.channel = some channel)
    (mismatch : Mismatch (executor.repliesOnly line.connection.description)
      middle.network.nextRequest (middle.receipt channel) fault) :
    ∃ after, closingAfter closes executor.run line = (.error (.ofCause (.response fault)), after) ∧
      (after.connection.closed = true ↔ fault ≠ .notReply ∨ closes = true) := by
  rcases mismatch.ending with
    ⟨other, time, failed⟩ | ⟨rfl, only, time, message, rest, completed⟩
  · -- The exchange itself fails, and closes the connection as it does.
    obtain ⟨last, sent, closed⟩ := send_failing takes answered found context failed
    refine ⟨last.afterwards closes, ?_, ?_⟩
    · rw [closingAfter_apply, run_failing asks sent closed rfl]
    · simp [closed, other]
  · -- The exchange is completed, and its outcome is judged after that.
    obtain ⟨last, sent, opened⟩ := send_completing takes answered found context completed
    refine ⟨last.afterwards closes, ?_, ?_⟩
    · rw [closingAfter_apply, run_notReply asks only sent]
    · simp [opened]

/-- A query to a server that takes legacy requests only is answered with a message, and the
connection stays open. -/
theorem mismatch_outcome_message :
    let address : Address := default
    let description : ConnectionDescription := { address, wireVersion := 3 }
    let message : Bytes :=
      [26, 0, 0, 0, 0, 0, 0, 0, 0, 0, 0, 0, 221, 7, 0, 0, 0, 0, 0, 0, 0, 5, 0, 0, 0, 0]
    let line : Line :=
      { connection := .fresh ⟨address, 1⟩ description {}
        network := { script := [fun _ => [{ bytes := message }]] } }
    let asked : Query := { target := ⟨"db", "c"⟩, filter := [] }
    ∃ after, closingAfter false (query asked Decoder.bytes).run line
        = (.error (.ofCause (.response .notReply)), after) ∧
      after.connection.closed = false := by
  intro address description message line asked
  let request : Request :=
    .query { flags := {}, target := ⟨"db", "c"⟩, query := ⟨[5, 0, 0, 0, 0]⟩ }
  have framed : asked.legacyRequest description.type = .ok request := by rfl
  have asks : (query asked Decoder.bytes).Asks line request {} line := ⟨rfl, rfl, framed⟩
  have takes : line.Takes request := by
    have accepted : (register request {} line).1.isOk = true := by decide +kernel
    exact ⟨register_isOk.mp accepted, {}, rfl, rfl⟩
  have heard : line.receipt {}
      = .frame 0 ⟨26, 0, 0, .message⟩ [0, 0, 0, 0, 0, 5, 0, 0, 0, 0] {} := by
    rfl
  have read : Response.read ⟨26, 0, 0, .message⟩ [0, 0, 0, 0, 0, 5, 0, 0, 0, 0]
      = .ok (.message { flags := {}, body := ⟨[5, 0, 0, 0, 0]⟩ }) :=
    Work.ok_of_toOption (by decide +kernel)
  have mismatch : Mismatch true 0 (line.receipt {}) .notReply := by
    rw [heard]
    exact .message 0 {} rfl read rfl
  obtain ⟨after, ended, closed⟩ := mismatch_outcome (query asked Decoder.bytes) false line line
    request {} {} .notReply asks rfl takes rfl mismatch
  refine ⟨after, ended, ?_⟩
  -- Had it been closed, the fault would be another one.
  cases open_after : after.connection.closed with
  | false => rfl
  | true => simpa using closed.mp open_after

end Executor

end DocWire
