import DocWire.Proofs.Command.Run
import DocWire.Proofs.Connection.Answers
import DocWire.Proofs.Connection.Standing
import DocWire.Proofs.Executor.Basic

/-! Operations of which nobody wants to hear. Whether such an operation returns as soon as its
message is out depends on the framing: a command that is framed as a query is answered all the same,
and its answer is awaited. -/

namespace DocWire

/-- A message has gone out over the line. -/
def Line.Posts (line after : Line) : Prop :=
  ∃ bytes, after.network.sent = line.network.sent ++ [(line.connection.id.number, bytes)]

/-- No time has passed, and of what there was to read nothing was read. -/
structure Line.Unwaited (line after : Line) : Prop where
  now : after.network.now = line.network.now
  unread : line.unread <+: after.unread

/-- Nothing is left to read, and the server does not react to what is sent. -/
structure Line.Silent (line : Line) : Prop where
  patient : line.network.blocking = false
  still : ∀ id, line.network.reaction id = []
  nothing : ∀ channel, line.connection.channel = some channel →
    channel.arrived = [] ∧ channel.coming = []

/-- A request can be sent over the line: it can go out, and the server has not hung up. -/
structure Line.Takes (line : Line) (request : Request) : Prop where
  admits : line.Admits request
  connected : ∃ channel, line.connection.channel = some channel ∧ channel.hungUp = false

/-- What is in the way of a request, if anything is: it is refused before it goes out; or there is
no channel for it, or the server has hung that up. -/
def Line.obstacle (line : Line) (request : Request) : Except Cause Unit := do
  line.refusal request
  match line.connection.channel with
  | none => .error (.closed line.connection.id)
  | some channel => if channel.hungUp then .error (.stream .brokenPipe) else .ok ()

section Sending

variable {line after : Line} {channel : Channel} {sending : Sending} {request : Request}
  {context : Correlation} {result : Except Halt (Option Response)}

/-- Nobody hears from a server that is silent. -/
theorem Line.Silent.ending (silent : line.Silent)
    (found : line.connection.channel = some channel) (connected : channel.hungUp = false)
    (answered : sending.answered = true) : (line.start sending channel).2 = .never := by
  obtain ⟨arrived, coming⟩ := silent.nothing channel found
  rw [line.start_connected sending connected]
  simp only [answered, if_true, silent.still, Channel.deliver, List.foldl_nil, Channel.receive,
    arrived, coming]
  -- Not even a header has come, and nothing is on its way.
  unfold receiveFrom
  simp [Incoming.read, Bytes.split?, headerLength, connected, Network.waiting, Network.record,
    silent.patient, Receipt.ending]

/-- A receipt completes an exchange with a response only. -/
theorem Receipt.ending_completed {receipt : Receipt} {id : Int32} {time : Nat}
    {response : Option Response} {rest : Channel}
    (completed : receipt.ending id = .completed time response rest) : response.isSome = true := by
  -- Neither a failure to read nor a frame that answers another request completes an exchange.
  unfold ending at completed
  split at completed
  · cases completed
  · cases completed
  · split at completed
    · cases completed
      rfl
    · cases completed

/-- The bytes of a message are written in vain to a channel of which nobody is at the other end. -/
theorem carryOut_hungUp (found : line.connection.channel = some channel)
    (hungUp : channel.hungUp = true) :
    ∃ after, carryOut sending line = (.error (.ofCause (.stream .brokenPipe)), after) ∧
      after.network.sent = line.network.sent := by
  -- It fails before the server could react.
  refine ⟨(carryOut sending line).2, ?_, ?_⟩ <;> rw [carryOut_some found]
  · rw [line.start_hungUp sending hungUp]
    rfl
  · rw [Line.sent_settle, line.start_hungUp sending hungUp]

/-- Over a channel that is connected, the bytes are on the wire before anything is awaited. -/
theorem posts_carryOut (found : line.connection.channel = some channel)
    (connected : channel.hungUp = false) : line.Posts (carryOut sending line).2 := by
  refine ⟨sending.bytes, ?_⟩
  rw [carryOut_some found, Line.sent_settle, line.start_connected sending connected]
  rfl

/-- A message without a response goes out, and that is the end of it. -/
theorem carryOut_unanswered (ended : carryOut sending line = (result, after))
    (found : line.connection.channel = some channel) (connected : channel.hungUp = false)
    (unanswered : sending.answered = false) (opened : line.connection.closed = false) :
    line.Unwaited after ∧ result = .ok none := by
  rw [carryOut_some found, line.start_connected sending connected] at ended
  simp only [unanswered, Bool.false_eq_true, if_false, Line.settle, opened] at ended
  cases ended
  refine ⟨⟨Nat.max_self _, ?_⟩, rfl⟩
  -- The server may have added to the stream, but nobody reads from it.
  rw [Line.unread_some line found]
  exact channel.unread_deliver _ _

/-- A message with a response ends with the response, or without an answer; from a silent server
nothing is ever heard. -/
theorem carryOut_answered (ended : carryOut sending line = (result, after))
    (found : line.connection.channel = some channel) (connected : channel.hungUp = false)
    (answered : sending.answered = true) :
    result ≠ .ok none ∧ (line.Silent → result = .error .dropped) := by
  rw [carryOut_some found] at ended
  refine ⟨?_, fun silent => ?_⟩
  · -- The exchange is completed by a frame, and a frame holds a response.
    rintro rfl
    obtain ⟨⟨time, rest, completed⟩, -⟩ := Line.settle_ok _ ended
    rw [line.start_connected sending connected] at completed
    simp only [answered, if_true] at completed
    cases Receipt.ending_completed completed
  · rw [silent.ending found connected answered] at ended
    cases ended
    rfl

/-- A request that can go out is carried out under the next id, on a line where so far nothing else
has happened than that the id was spent and the request reported. -/
theorem send_admitted (admits : line.Admits request) (context : Correlation) :
    ∃ sending nextRequest events,
      send request context line = carryOut sending
        { line with network := { line.network with nextRequest, events } } ∧
      sending.id = line.network.nextRequest ∧
      sending.answered = request.expectsResponse := by
  -- The registration succeeds, and then it is known what it has done to the line.
  obtain ⟨spent, events, -, -, same⟩ := register_spends line request context
  have accepted : (register request context line).1.isOk = true := register_isOk.mpr admits
  rcases registered : register request context line with ⟨halt | sending, middle⟩ <;>
    rw [registered] at same accepted
  · cases accepted
  · obtain rfl := same
    obtain ⟨id, -, -, answered⟩ := register_ok registered
    refine ⟨sending, line.network.nextRequest + .ofNat spent, events, ?_, id, answered⟩
    simp only [send, Work.bind_apply, registered]

/-- Nothing is in the way of a request exactly when it can be sent. -/
theorem obstacle_eq_ok : line.obstacle request = .ok () ↔ line.Takes request := by
  unfold Line.obstacle
  refine ⟨fun clear => ?_, fun ⟨admits, channel, found, connected⟩ => ?_⟩
  · obtain ⟨_, passed, clear⟩ := Work.except_bind_ok clear
    refine ⟨refusal_eq_ok.mp passed, ?_⟩
    cases found : line.connection.channel with
    | none =>
      rw [found] at clear
      cases clear
    | some channel =>
      cases connected : channel.hungUp with
      | false => exact ⟨channel, rfl, connected⟩
      | true =>
        rw [found] at clear
        simp only [connected, if_true] at clear
        cases clear
  · rw [refusal_eq_ok.mpr admits, found]
    exact if_neg (Bool.eq_false_iff.mp connected)

/-- A request fails with what is in its way, and nothing is sent. -/
theorem send_obstacle {cause : Cause} (obstructed : line.obstacle request = .error cause)
    (context : Correlation) :
    ∃ after, send request context line = (.error (.ofCause cause), after) ∧
      after.network.sent = line.network.sent := by
  unfold Line.obstacle at obstructed
  have outcome := register_fst line request context
  cases refused : line.refusal request with
  | error other =>
    -- The request gets no id for good.
    rw [refused] at obstructed outcome
    cases obstructed
    obtain ⟨network, same, quiet⟩ := register_network line request context
    exact ⟨_, send_refused (Prod.ext outcome same), quiet⟩
  | ok _ =>
    obtain ⟨sending, nextRequest, events, carried, -⟩ :=
      send_admitted (refusal_eq_ok.mp refused) context
    rw [refused] at obstructed
    rw [carried]
    cases found : line.connection.channel with
    | none =>
      rw [found] at obstructed
      cases obstructed
      exact ⟨_, carryOut_none found, rfl⟩
    | some channel =>
      cases hungUp : channel.hungUp with
      | false =>
        rw [found] at obstructed
        simp only [hungUp] at obstructed
        cases obstructed
      | true =>
        rw [found] at obstructed
        simp only [hungUp] at obstructed
        cases obstructed
        exact carryOut_hungUp found hungUp

/-- A request that cannot be sent is not sent. -/
theorem send_untaken (untaken : ¬ line.Takes request) (context : Correlation) :
    ∃ halt after, send request context line = (.error halt, after) ∧
      after.network.sent = line.network.sent := by
  cases obstructed : line.obstacle request with
  | ok _ => exact absurd (obstacle_eq_ok.mp obstructed) untaken
  | error cause => exact ⟨_, send_obstacle obstructed context⟩

/-- A request that can be sent is sent: it is carried out over a channel that is connected. -/
theorem send_taken (takes : line.Takes request)
    (ended : send request context line = (result, after)) :
    line.Posts after ∧ ∃ channel sending nextRequest events,
      line.connection.channel = some channel ∧ channel.hungUp = false ∧
      sending.answered = request.expectsResponse ∧
      carryOut sending { line with network := { line.network with nextRequest, events } }
        = (result, after) := by
  obtain ⟨channel, found, connected⟩ := takes.connected
  obtain ⟨sending, nextRequest, events, carried, -, same⟩ := send_admitted takes.admits context
  rw [carried] at ended
  refine ⟨?_, channel, sending, nextRequest, events, found, connected, same, ended⟩
  -- Neither the id that was spent nor the report is among what was sent.
  let middle : Line := { line with network := { line.network with nextRequest, events } }
  have posts : middle.Posts (carryOut sending middle).2 := posts_carryOut found connected
  rwa [show carryOut sending middle = _ from ended] at posts

/-- A request without a response that can be sent is sent, and that is the end of it. -/
theorem send_unanswered (takes : line.Takes request)
    (unanswered : request.expectsResponse = false)
    (ended : send request context line = (result, after)) :
    line.Posts after ∧ line.Unwaited after ∧ result = .ok none := by
  obtain ⟨posts, channel, sending, nextRequest, events, found, connected, same, carried⟩ :=
    send_taken takes ended
  obtain ⟨unwaited, nothing⟩ :=
    carryOut_unanswered carried found connected (same.trans unanswered) takes.admits.opened
  exact ⟨posts, ⟨unwaited.now, unwaited.unread⟩, nothing⟩

/-- A request with a response that can be sent is sent, and ends with the response or without an
answer; from a silent server nothing is ever heard. -/
theorem send_answered (takes : line.Takes request) (answered : request.expectsResponse = true)
    (ended : send request context line = (result, after)) :
    line.Posts after ∧ result ≠ .ok none ∧ (line.Silent → result = .error .dropped) := by
  obtain ⟨posts, channel, sending, nextRequest, events, found, connected, same, carried⟩ :=
    send_taken takes ended
  obtain ⟨heard, silent⟩ := carryOut_answered carried found connected (same.trans answered)
  exact ⟨posts, heard, fun quiet => silent ⟨quiet.patient, quiet.still, quiet.nothing⟩⟩

variable {α : Type} {next : Option Response → Exchange α} {outcome : Except Halt α}

/-- Work that begins with a request fails with nothing sent when there is none that can be sent. -/
theorem check_send_bind_untaken {framed : Except Cause Request}
    {next : Request → Option Response → Exchange α}
    (untaken : ∀ request, framed = .ok request → ¬ line.Takes request)
    (ended : (do
      let request ← Exchange.check framed
      let response ← send request context
      next request response) line = (outcome, after)) :
    after.network.sent = line.network.sent ∧ ∃ halt, outcome = .error halt := by
  cases framed with
  | error cause =>
    -- There is no request at all.
    cases ended
    exact ⟨rfl, _, rfl⟩
  | ok request =>
    obtain ⟨halt, last, failed, quiet⟩ := send_untaken (untaken request rfl) context
    rw [Work.bind_apply, Exchange.check_ok] at ended
    dsimp only at ended
    rw [Work.bind_apply, failed] at ended
    cases ended
    exact ⟨quiet, halt, rfl⟩

/-- Work that goes on after a request without a response goes on at once. -/
theorem send_bind_unanswered (takes : line.Takes request)
    (unanswered : request.expectsResponse = false)
    (ended : (send request context >>= next) line = (outcome, after)) :
    ∃ middle, line.Posts middle ∧ line.Unwaited middle ∧ next none middle = (outcome, after) := by
  rw [Work.bind_apply] at ended
  rcases sent : send request context line with ⟨result, middle⟩
  rw [sent] at ended
  obtain ⟨posts, unwaited, rfl⟩ := send_unanswered takes unanswered sent
  exact ⟨middle, posts, unwaited, ended⟩

/-- Work that goes on after a request with a response has a response to go on with; it comes to
nothing when the server is silent. -/
theorem send_bind_answered (takes : line.Takes request)
    (answered : request.expectsResponse = true)
    (quiet : ∀ response, Work.Keeps (·.network.sent) (next (some response)))
    (ended : (send request context >>= next) line = (outcome, after)) :
    line.Posts after ∧
      (∀ value, outcome = .ok value →
        ∃ response middle, next (some response) middle = (.ok value, after)) ∧
      (line.Silent → outcome = .error .dropped) := by
  rw [Work.bind_apply] at ended
  rcases sent : send request context line with ⟨halt | response, middle⟩ <;> rw [sent] at ended <;>
    obtain ⟨posts, heard, silent⟩ := send_answered takes answered sent
  · -- Without an answer, the sending is all that there is to the work.
    cases ended
    refine ⟨posts, ?_, fun still => ?_⟩
    · rintro value ⟨⟩
    · rw [Except.error.inj (silent still)]
  · cases response with
    | none => exact absurd rfl heard
    | some response =>
      have kept := quiet response middle
      dsimp only at ended
      rw [ended] at kept
      obtain ⟨bytes, posted⟩ := posts
      refine ⟨⟨bytes, kept.trans posted⟩, fun value same => ?_, fun still => ?_⟩
      · rw [same] at ended
        exact ⟨response, middle, ended⟩
      · cases silent still

end Sending

section Framing

variable {description : ConnectionDescription} {request : Request}

/-- A command is answered unless nobody expects it to be and the framing can tell the server so. -/
theorem Command.expectsResponse_request {command : Command}
    (framed : command.request description = .ok request) :
    request.expectsResponse = (command.responseExpected || !description.hasMessages) := by
  unfold Command.request at framed
  split at framed
  · rename_i messages
    cases built : command.toMessage description with
    | error cause =>
      rw [built] at framed
      cases framed
    | ok message =>
      rw [built] at framed
      cases framed
      unfold toMessage at built
      obtain ⟨body, _, built⟩ := Work.except_bind_ok built
      obtain ⟨_, _, built⟩ := Work.except_bind_ok built
      cases built
      simp [Request.expectsResponse, messages]
  · rename_i queries
    -- No flag of a query keeps the server from answering it.
    cases built : command.toQuery description with
    | error cause =>
      rw [built] at framed
      cases framed
    | ok query =>
      rw [built] at framed
      cases framed
      simp [Request.expectsResponse, queries]

/-- The legacy requests of writes are never answered. -/
theorem Write.expectsResponse_legacyRequest {write : Write}
    (framed : write.legacyRequest = .ok request) : request.expectsResponse = false := by
  -- Each statement has a request of its own, of which none asks for an answer.
  cases legacyForm_of_framed framed <;> rfl

/-- What a reply to a write command says is acknowledged. -/
theorem acknowledged_writeResult {document : RawDocument} {isUpdate : Bool} {result : WriteResult}
    (read : writeResult document isUpdate = .ok result) : result.acknowledged = true := by
  -- A report that tells a failure comes to no result, and any other is taken as it is.
  unfold writeResult at read
  obtain ⟨_, _, read⟩ := Work.except_bind_ok read
  split at read
  · cases read
  · split at read
    · cases read
    · cases read
      rfl

end Framing

namespace Write

variable {write : Write} {line after : Line} {request : Request}
  {result : Except Halt WriteResult}

/-- The request that the write begins with, in the dialect of the server, unless the write is
refused before. -/
def opening (write : Write) (description : ConnectionDescription) : Except Cause Request := do
  write.judge description
  if description.hasWriteCommands then write.command.request description else write.legacyRequest

/-- A write command of which nobody wants to hear is awaited all the same where the framing cannot
tell the server so. -/
theorem runCommand_unanswered (unanswered : write.concern.isAcknowledged = false)
    (framed : write.command.request line.connection.description = .ok request)
    (takes : line.Takes request) (ended : write.runCommand line = (result, after)) :
    line.Posts after ∧
      (line.connection.description.hasMessages = true →
        line.Unwaited after ∧ result = .ok .unacknowledged) ∧
      (line.connection.description.hasMessages = false →
        (∀ value, result = .ok value → value.acknowledged = true) ∧
          (line.Silent → result = .error .dropped)) := by
  unfold runCommand at ended
  rw [Work.bind_apply, Work.get_apply] at ended
  dsimp only at ended
  rw [framed, Work.bind_apply, Exchange.check_ok] at ended
  dsimp only at ended
  -- The concern has made the command one that expects no answer.
  have expects : request.expectsResponse = !line.connection.description.hasMessages := by
    rw [Command.expectsResponse_request framed]
    simp [command, unanswered]
  cases messages : line.connection.description.hasMessages with
  | true =>
    rw [messages] at expects
    obtain ⟨middle, posts, unwaited, rest⟩ := send_bind_unanswered takes expects ended
    cases rest
    exact ⟨posts, fun _ => ⟨unwaited, rfl⟩, nofun⟩
  | false =>
    rw [messages] at expects
    have quiet (response : Response) : Work.Keeps (·.network.sent) (do
        let reply ← replyDocument line.connection.id.address response
        Exchange.check (writeResult reply write.statement.isUpdate)) :=
      .bind (Exchange.keeps_replyDocument (fun _ _ => rfl) _ _) fun _ => Exchange.keeps_check _
    obtain ⟨posts, heard, silent⟩ := send_bind_answered takes expects quiet ended
    refine ⟨posts, nofun, fun _ => ⟨fun value same => ?_, silent⟩⟩
    obtain ⟨response, middle, rest⟩ := heard value same
    obtain ⟨reply, _, _, rest⟩ := Work.bind_ok rest
    exact acknowledged_writeResult (Exchange.check_eq_ok rest).1

/-- A legacy write of which nobody wants to hear is never awaited. -/
theorem runLegacy_unanswered (unanswered : write.concern.isAcknowledged = false)
    (framed : write.legacyRequest = .ok request) (takes : line.Takes request)
    (ended : write.runLegacy line = (result, after)) :
    line.Posts after ∧ line.Unwaited after ∧ result = .ok .unacknowledged := by
  unfold runLegacy at ended
  -- The question for the outcome is not asked.
  simp only [unanswered, Bool.false_eq_true, if_false] at ended
  rw [Work.bind_apply] at ended
  rcases posted : write.sendLegacy line with ⟨outcome, middle⟩
  rw [posted] at ended
  unfold sendLegacy at posted
  rw [framed, Work.bind_apply, Exchange.check_ok] at posted
  dsimp only at posted
  obtain ⟨last, posts, unwaited, rest⟩ :=
    send_bind_unanswered takes (expectsResponse_legacyRequest framed) posted
  cases rest
  cases ended
  exact ⟨posts, unwaited, rfl⟩

/-- A write fails with nothing sent when it does not begin with a request that can be sent. -/
theorem run_unsent
    (untaken : ∀ request, write.opening line.connection.description = .ok request →
      ¬ line.Takes request)
    (ended : write.run line = (result, after)) :
    after.network.sent = line.network.sent ∧ ∃ halt, result = .error halt := by
  rw [run_apply] at ended
  unfold opening at untaken
  cases judged : write.judge line.connection.description with
  | error cause =>
    rw [judged] at ended
    cases ended
    exact ⟨rfl, _, rfl⟩
  | ok _ =>
    rw [judged] at untaken
    simp only [judged] at ended
    -- In either dialect the request is the first thing that the write sends.
    cases commands : line.connection.description.hasWriteCommands with
    | false =>
      simp only [commands, Bool.false_eq_true, if_false] at ended
      replace untaken : ∀ request, write.legacyRequest = .ok request → ¬ line.Takes request :=
        fun request framed => untaken request (by rw [commands]; exact framed)
      unfold runLegacy at ended
      rw [Work.bind_apply] at ended
      rcases posted : write.sendLegacy line with ⟨outcome, middle⟩
      rw [posted] at ended
      obtain ⟨quiet, halt, rfl⟩ := check_send_bind_untaken untaken posted
      cases ended
      exact ⟨quiet, halt, rfl⟩
    | true =>
      simp only [commands, if_true] at ended
      replace untaken : ∀ request,
          write.command.request line.connection.description = .ok request → ¬ line.Takes request :=
        fun request framed => untaken request (by rw [commands]; exact framed)
      unfold runCommand at ended
      rw [Work.bind_apply, Work.get_apply] at ended
      exact check_send_bind_untaken untaken ended

/-- A write of which nobody wants to hear is awaited all the same where it is a command that is
framed as a query. -/
theorem run_unanswered (unanswered : write.concern.isAcknowledged = false)
    (opening : write.opening line.connection.description = .ok request)
    (takes : line.Takes request) (ended : write.run line = (result, after)) :
    let queries := line.connection.description.hasWriteCommands &&
      !line.connection.description.hasMessages
    line.Posts after ∧
      (queries = false → line.Unwaited after ∧ result = .ok .unacknowledged) ∧
      (queries = true → (∀ value, result = .ok value → value.acknowledged = true) ∧
        (line.Silent → result = .error .dropped)) := by
  obtain ⟨_, judged, framed⟩ := Work.except_bind_ok opening
  rw [run_apply, judged] at ended
  dsimp only at ended
  -- A legacy write has no answer at all; a command has one as a query, whatever it asks for.
  cases commands : line.connection.description.hasWriteCommands with
  | false =>
    simp only [commands, Bool.false_eq_true, if_false] at ended framed
    obtain ⟨posts, unwaited, nothing⟩ := runLegacy_unanswered unanswered framed takes ended
    exact ⟨posts, fun _ => ⟨unwaited, nothing⟩, nofun⟩
  | true =>
    simp only [commands, if_true] at ended framed
    obtain ⟨posts, messages, queries⟩ := runCommand_unanswered unanswered framed takes ended
    refine ⟨posts, fun legacy => messages ?_, fun legacy => queries ?_⟩
    · simpa using legacy
    · simpa using legacy

end Write

namespace CommandCall

variable {α : Type} {call : CommandCall} {decoder : Decoder α} {line after : Line}
  {request : Request}
  {result : Except Halt (Option α)}

/-- A batch beside a command has no part in whether an answer is expected. -/
theorem responseExpected_withBatch {command batched : Command} {middle : Line}
    (beside : Exchange.withBatch command line = (.ok batched, middle)) :
    batched.responseExpected = command.responseExpected := by
  unfold Exchange.withBatch at beside
  obtain ⟨found, _, looked, beside⟩ := Work.bind_ok beside
  -- With a payload or without, the flag is handed on.
  cases carried : found.payload with
  | none =>
    rw [carried] at beside
    cases beside
    rfl
  | some payload =>
    rw [carried] at beside
    obtain ⟨batch, _, _, rest⟩ := Work.bind_ok beside
    cases rest
    rfl

/-- A command that is prepared expects an answer only if its caller does. -/
theorem responseExpected_prepare {command : Command} {request : Request} {middle : Line}
    (prepared : call.prepare line = (.ok (command, request), middle)) :
    command.responseExpected = call.responseExpected ∧
      command.request line.connection.description = .ok request := by
  obtain ⟨_, _, judged, afterSession⟩ := Work.bind_ok prepared
  obtain rfl := Work.Keeps.same Exchange.keeps_ensureSession judged
  obtain ⟨_, _, found, afterLook⟩ := Work.bind_ok afterSession
  cases found
  obtain ⟨stamped, _, stamps, afterStamp⟩ := Work.bind_ok afterLook
  obtain ⟨spelled, rfl⟩ := Exchange.check_eq_ok stamps
  obtain ⟨batched, _, beside, afterBatch⟩ := Work.bind_ok afterStamp
  obtain rfl := Work.Keeps.same (Exchange.keeps_withBatch stamped) beside
  obtain ⟨_, _, framed, last⟩ := Work.bind_ok afterBatch
  obtain ⟨fits, rfl⟩ := Exchange.check_eq_ok framed
  cases last
  refine ⟨(responseExpected_withBatch beside).trans ?_, fits⟩
  -- The stamps are marks on the document alone.
  obtain ⟨_, _, rest⟩ := Work.except_bind_ok spelled
  cases rest
  rfl

/-- A response comes to a value, if it comes to anything. -/
theorem conclude_ne_none {command : Command} {response : Response} :
    conclude decoder command (some response) line ≠ (.ok none, after) := by
  intro ended
  -- Once all six steps are done, what is returned is a value.
  obtain ⟨_, _, _, ended⟩ := Work.bind_ok ended
  obtain ⟨_, _, _, ended⟩ := Work.bind_ok ended
  obtain ⟨_, _, _, ended⟩ := Work.bind_ok ended
  obtain ⟨_, _, _, ended⟩ := Work.bind_ok ended
  obtain ⟨_, _, _, ended⟩ := Work.bind_ok ended
  obtain ⟨_, _, _, ended⟩ := Work.bind_ok ended
  cases ended

/-- What is in the way of a command, if anything is: it cannot be prepared, or its request cannot be
sent. -/
def obstacle (call : CommandCall) (line : Line) : Except Halt Unit :=
  match (call.prepare line).1 with
  | .error halt => .error halt
  | .ok (_, request) => (line.obstacle request).mapError .ofCause

/-- Nothing is in the way of a command that is prepared as a request that can be sent. -/
theorem exists_takes (clear : call.obstacle line = .ok ()) :
    ∃ command request, call.prepare line = (.ok (command, request), line) ∧
      line.Takes request := by
  unfold obstacle at clear
  rcases prepared : call.prepare line with ⟨halt | ⟨command, request⟩, middle⟩ <;>
    rw [prepared] at clear
  · cases clear
  · obtain rfl := (Work.Keeps.same (keeps_prepare call) prepared).symm
    refine ⟨command, request, rfl, DocWire.obstacle_eq_ok.mp ?_⟩
    cases blocked : line.obstacle request with
    | ok _ => rfl
    | error cause =>
      dsimp only at clear
      rw [blocked] at clear
      cases clear

/-- A command fails with what is in its way, and nothing is sent. -/
theorem run_obstacle {halt : Halt} (obstructed : call.obstacle line = .error halt)
    (decoder : Decoder α) :
    (call.run decoder line).1 = .error halt ∧
      (call.run decoder line).2.network.sent = line.network.sent := by
  unfold obstacle at obstructed
  simp only [run, Work.bind_apply]
  rcases prepared : call.prepare line with ⟨other | ⟨command, request⟩, middle⟩ <;>
    obtain rfl := (Work.Keeps.same (keeps_prepare call) prepared).symm <;>
    rw [prepared] at obstructed
  · -- What is wrong with the command shows before the line is touched.
    cases obstructed
    exact ⟨rfl, rfl⟩
  · dsimp only at obstructed ⊢
    cases blocked : line.obstacle request with
    | ok _ =>
      rw [blocked] at obstructed
      cases obstructed
    | error cause =>
      rw [blocked] at obstructed
      cases obstructed
      obtain ⟨last, failed, quiet⟩ := send_obstacle blocked call.context
      rw [failed]
      exact ⟨rfl, quiet⟩

/-- A command fails with nothing sent when it is not prepared as a request that can be sent. -/
theorem run_unsent (untaken : ∀ command request,
      call.prepare line = (.ok (command, request), line) → ¬ line.Takes request)
    (ended : call.run decoder line = (result, after)) :
    after.network.sent = line.network.sent ∧ ∃ halt, result = .error halt := by
  cases obstructed : call.obstacle line with
  | ok _ =>
    obtain ⟨command, request, prepared, takes⟩ := exists_takes obstructed
    exact absurd takes (untaken command request prepared)
  | error halt =>
    obtain ⟨failed, quiet⟩ := run_obstacle obstructed decoder
    rw [ended] at failed quiet
    exact ⟨quiet, halt, failed⟩

/-- A command of which nobody wants to hear is awaited all the same where the framing cannot tell
the server so. -/
theorem run_unanswered {command : Command} (unanswered : call.responseExpected = false)
    (prepared : call.prepare line = (.ok (command, request), line)) (takes : line.Takes request)
    (ended : call.run decoder line = (result, after)) :
    line.Posts after ∧
      (line.connection.description.hasMessages = true →
        line.Unwaited after ∧ result = .ok none) ∧
      (line.connection.description.hasMessages = false →
        result ≠ .ok none ∧ (line.Silent → result = .error .dropped)) := by
  unfold run at ended
  rw [Work.bind_apply, prepared] at ended
  dsimp only at ended
  obtain ⟨expected, framed⟩ := responseExpected_prepare prepared
  have expects : request.expectsResponse = !line.connection.description.hasMessages := by
    rw [Command.expectsResponse_request framed, expected, unanswered, Bool.false_or]
  cases messages : line.connection.description.hasMessages with
  | true =>
    rw [messages] at expects
    obtain ⟨last, posts, unwaited, rest⟩ := send_bind_unanswered takes expects ended
    -- Only the payload is left to be moved on.
    cases rest
    exact ⟨posts, fun _ => ⟨⟨unwaited.now, unwaited.unread⟩, rfl⟩, nofun⟩
  | false =>
    rw [messages] at expects
    have quiet (response : Response) :
        Work.Keeps (·.network.sent) (conclude decoder command (some response)) :=
      keeps_conclude (fun _ _ => rfl) (fun _ _ => rfl) (fun _ _ => rfl) _ _ _
    obtain ⟨posts, heard, silent⟩ := send_bind_answered takes expects quiet ended
    refine ⟨posts, nofun, fun _ => ⟨fun none => ?_, silent⟩⟩
    obtain ⟨response, last, rest⟩ := heard _ none
    exact conclude_ne_none rest

end CommandCall

namespace Executor

variable {α : Type}

/-- Whether nobody wants to hear how the operation went. -/
def unanswered : Executor α → Bool
  | write made => !made.concern.isAcknowledged
  | command _ call _ => !call.responseExpected
  | query .. | getMore .. | killCursors _ => false

/-- The answer that stands for none. -/
def Unheard : Executor α → α → Prop
  | write _ => fun result => result = .unacknowledged
  | command .. => fun result => result = none
  | query .. | getMore .. | killCursors _ => fun _ => False

/-- Whether the operation is a command that is framed as a query. -/
def queries (executor : Executor α) (description : ConnectionDescription) : Bool :=
  match executor with
  | write _ => description.hasWriteCommands && !description.hasMessages
  | command .. => !description.hasMessages
  | _ => false

/-- A write or a command begins with the request, having passed all that is judged before. -/
def Opens (executor : Executor α) (line : Line) (request : Request) : Prop :=
  match executor with
  | write made => made.opening line.connection.description = .ok request
  | command rule call _ => checkNames rule call.command = .ok () ∧
      ∃ command, call.prepare line = (.ok (command, request), line)
  | query .. | getMore .. | killCursors _ => False

/-- The message of the operation can be sent. -/
def Sendable (executor : Executor α) (line : Line) : Prop :=
  ∃ request, executor.Opens line request ∧ line.Takes request

/-- An operation of which nobody wants to hear, and whose message can be sent, sends it. Then it
ends at once with the answer that stands for none and nothing is read, unless it is a command that
is framed as a query: such an operation never ends with that answer, and from a silent server it
does not return. When the message cannot be sent, the operation fails with nothing sent. -/
theorem unanswered_outcome (executor : Executor α) (line after : Line) (result : Except Halt α)
    (unanswered : executor.unanswered = true) (ended : executor.run line = (result, after)) :
    let queries := executor.queries line.connection.description
    (executor.Sendable line → line.Posts after ∧
      (queries = false →
        line.Unwaited after ∧ ∃ value, result = .ok value ∧ executor.Unheard value) ∧
      (queries = true → (∀ value, result = .ok value → ¬ executor.Unheard value) ∧
        (line.Silent → result = .error .dropped))) ∧
    (¬ executor.Sendable line →
      after.network.sent = line.network.sent ∧ ∃ halt, result = .error halt) := by
  cases executor with
  | write made =>
    have nobody : made.concern.isAcknowledged = false := by
      simpa [Executor.unanswered] using unanswered
    refine ⟨?_, fun stuck => ?_⟩
    · rintro ⟨request, opens, takes⟩
      obtain ⟨posts, unread, awaited⟩ := Write.run_unanswered nobody opens takes ended
      refine ⟨posts, fun legacy => ?_, fun legacy => ⟨?_, (awaited legacy).2⟩⟩
      · obtain ⟨unwaited, nothing⟩ := unread legacy
        exact ⟨unwaited, _, nothing, rfl⟩
      · -- What a reply says is acknowledged, and the answer that stands for none is not.
        rintro value same rfl
        cases (awaited legacy).1 _ same
    · exact Write.run_unsent (fun request opens takes => stuck ⟨request, opens, takes⟩) ended
  | command rule call decoder =>
    have nobody : call.responseExpected = false := by
      simpa [Executor.unanswered] using unanswered
    change (Exchange.check (checkNames rule call.command) >>= fun _ => call.run decoder) line
      = (result, after) at ended
    rw [Work.bind_apply] at ended
    cases named : checkNames rule call.command with
    | error cause =>
      rw [named] at ended
      cases ended
      refine ⟨?_, fun _ => ⟨rfl, _, rfl⟩⟩
      rintro ⟨request, ⟨passed, -⟩, -⟩
      rw [named] at passed
      cases passed
    | ok _ =>
      rw [named] at ended
      simp only [Exchange.check_ok] at ended
      refine ⟨?_, fun stuck => ?_⟩
      · rintro ⟨request, ⟨-, command, prepared⟩, takes⟩
        obtain ⟨posts, unread, awaited⟩ :=
          CommandCall.run_unanswered nobody prepared takes ended
        refine ⟨posts, fun messages => ?_, fun messages => ?_⟩
        · obtain ⟨unwaited, nothing⟩ := unread (by simpa [Executor.queries] using messages)
          exact ⟨unwaited, _, nothing, rfl⟩
        · obtain ⟨heard, silent⟩ := awaited (by simpa [Executor.queries] using messages)
          refine ⟨?_, silent⟩
          rintro value same rfl
          exact heard same
      · exact CommandCall.run_unsent
          (fun command request prepared takes => stuck ⟨request, ⟨named, command, prepared⟩, takes⟩)
          ended
  -- The answers to the others are what they are run for.
  | query asked decoder => cases unanswered
  | getMore request decoder => cases unanswered
  | killCursors request => cases unanswered

/-- An insertion of which nobody wants to hear waits in vain for a silent server that takes write
commands as queries. -/
theorem unanswered_outcome_silent :
    let address : Address := default
    let description : ConnectionDescription := { address, wireVersion := 3 }
    let line : Line := { connection := .fresh ⟨address, 1⟩ description {}, network := {} }
    let insertion : Executor WriteResult := .write
      { target := ⟨"db", "c"⟩
        statement := .insert [("_id", .int32 0)]
        concern := .unacknowledged }
    insertion.unanswered = true ∧ line.Posts (insertion.run line).2 ∧
      (insertion.run line).1 = .error .dropped := by
  intro address description line insertion
  have silent : line.Silent := ⟨rfl, fun _ => rfl, by rintro channel ⟨⟩; exact ⟨rfl, rfl⟩⟩
  have once : (insertion.run line).2.network.sent.length = 1 := by decide +kernel
  have nobody : insertion.unanswered = true := by decide +kernel
  refine ⟨nobody, ?_⟩
  rcases ended : insertion.run line with ⟨result, after⟩
  rw [ended] at once
  obtain ⟨sendable, stuck⟩ := unanswered_outcome insertion line after result nobody ended
  -- A message has gone out, so it was one that could be sent.
  by_cases can : insertion.Sendable line
  · obtain ⟨posts, -, awaited⟩ := sendable can
    exact ⟨posts, (awaited rfl).2 silent⟩
  · rw [(stuck can).1] at once
    cases once

end Executor

end DocWire
