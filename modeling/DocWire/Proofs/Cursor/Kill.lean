import DocWire.Proofs.Cursor.Gone
import DocWire.Proofs.Executor.Mismatch
import DocWire.Proofs.Executor.Stepwise
import DocWire.Proofs.Wire.Grounds

/-! Giving cursors up: what the server thinks of it is never an error, and an exchange that fails is
one and closes the connection. A request that never gets to an exchange is an error in the legacy
framing; as a command it is passed over like a verdict of the server. -/

namespace DocWire

/-- An end that does not come from the byte stream. -/
def Halt.Grounded (halt : Halt) : Prop :=
  ∃ cause, halt = .ofCause cause ∧ cause.isNetwork = false

namespace Exchange

variable {α : Type}

theorem ends_check {result : Except Cause α} (grounded : Grounded result) :
    Ends Halt.Grounded (check result) :=
  .check fun cause failed => ⟨cause, rfl, grounded cause failed⟩

theorem ends_modify (ways : Halt → Prop) (change : Line → Line) :
    Ends ways (modify change : Exchange PUnit) := by
  rintro line halt after ⟨⟩

end Exchange

open Exchange (Ends)

section Sending

/-- An exchange of the request starts: it can go out, and there is a channel. -/
def Line.Starts (line : Line) (request : Request) : Prop :=
  line.Admits request ∧ line.connection.channel ≠ none

/-- The exchange of a request is completed: the request goes out whole, and if it is answered, a
frame comes back that answers it. -/
structure Line.Completes (line : Line) (request : Request) : Prop where
  takes : line.Takes request
  heard : request.expectsResponse = true → ∃ channel time header body rest response,
    line.connection.channel = some channel ∧
    line.receipt channel = .frame time header body rest ∧
    Response.answer line.network.nextRequest header body = .ok response

variable {line : Line} {request : Request}

/-- What is taken is started. -/
theorem Line.Takes.starts (takes : line.Takes request) : line.Starts request := by
  obtain ⟨channel, found, -⟩ := takes.connected
  exact ⟨takes.admits, by simp [found]⟩

/-- A request that gets no id is refused on grounds of its own. -/
theorem ends_register (request : Request) (context : Correlation) :
    Ends Halt.Grounded (register request context) := by
  have looked : Ends Halt.Grounded (get : Exchange Line) := by
    rintro line halt after ⟨⟩
  have changed (line : Line) : Ends Halt.Grounded (set line : Exchange PUnit) := by
    rintro other halt after ⟨⟩
  -- The connection is judged first, then the form of the request, then its length.
  refine .bind looked fun line => .bind (Exchange.ends_check (grounded_ensureOpen line)) fun _ =>
    .bind (changed _) fun _ => .bind (Exchange.ends_check (grounded_encode _ _)) fun bytes =>
      .bind (Exchange.ends_check (grounded_checkLength _ _)) fun _ =>
        .bind (Exchange.ends_modify _ _) fun _ => .pure _

/-- Without an exchange nothing happens to the connection, and the stream is not to blame. -/
theorem send_unstarted (unstarted : ¬ line.Starts request) (context : Correlation) :
    ∃ halt after, send request context line = (.error halt, after) ∧ halt.Grounded ∧
      after.still = line.still := by
  by_cases admits : line.Admits request
  · -- What can go out has no channel to go out over.
    have lost : line.connection.channel = none :=
      Classical.not_not.mp fun found => unstarted ⟨admits, found⟩
    obtain ⟨sending, nextRequest, events, carried, -⟩ := send_admitted admits context
    let spent : Line := { line with network := { line.network with nextRequest, events } }
    refine ⟨.ofCause (.closed line.connection.id), spent, ?_, ⟨_, rfl, rfl⟩, rfl⟩
    rw [carried]
    exact (carryOut_none lost : carryOut sending spent = _)
  · obtain ⟨network, same, quiet⟩ := register_network line request context
    rcases registered : register request context line with ⟨halt | sending, after⟩
    · have grounded := ends_register request context line halt after registered
      rw [registered] at same
      obtain rfl : after = { line with network } := same
      exact ⟨halt, _, send_refused registered, grounded, congrArg (Prod.mk line.connection) quiet⟩
    · -- An id that was given would show that the request can go out.
      have accepted : (register request context line).1.isOk = true := by
        rw [registered]
        rfl
      exact absurd (register_isOk.mp accepted) admits

/-- An exchange that starts leaves the connection open when it is completed, and closed when it is
not. -/
theorem closed_started (starts : line.Starts request) (context : Correlation) :
    (send request context line).2.connection.closed
      = !(send request context line).1.isOk := by
  obtain ⟨admits, there⟩ := starts
  obtain ⟨channel, found⟩ := Option.ne_none_iff_exists'.mp there
  exact closed_send_channel found admits

/-- A receipt completes an exchange when it is a frame with an answer. -/
theorem Receipt.ending_isCompleted {receipt : Receipt} {id : Int32} :
    (∃ time response channel, receipt.ending id = .completed time response channel) ↔
      ∃ time header body rest response, receipt = .frame time header body rest ∧
        Response.answer id header body = .ok response := by
  constructor
  · rintro ⟨time, response, channel, completed⟩
    cases receipt with
    | never => cases completed
    | failed time cause => cases completed
    | frame time header body rest =>
      -- A frame that is no answer is a failure of the exchange.
      cases answered : Response.answer id header body with
      | error cause => simp [Receipt.ending, answered] at completed
      | ok response => exact ⟨time, header, body, rest, response, rfl, answered⟩
  · rintro ⟨time, header, body, rest, response, rfl, answered⟩
    exact ⟨time, some response, rest, by simp [Receipt.ending, answered]⟩

/-- A request comes to an answer, or to its end without one, exactly when its exchange is completed.
-/
theorem send_isOk_iff (line : Line) (request : Request) (context : Correlation) :
    (send request context line).1.isOk = true ↔ line.Completes request := by
  by_cases takes : line.Takes request
  · cases answered : request.expectsResponse with
    | false =>
      -- Nothing is awaited, so nothing can go wrong any more.
      rcases sent : send request context line with ⟨result, after⟩
      obtain ⟨-, -, rfl⟩ := send_unanswered takes answered sent
      exact ⟨fun _ => ⟨takes, by simp [answered]⟩, fun _ => rfl⟩
    | true =>
      obtain ⟨channel, found, -⟩ := takes.connected
      obtain ⟨sending, middle, -, sent⟩ := send_receipt takes answered found context
      have decided : (send request context line).1.isOk = true ↔
          ∃ time response rest, (line.receipt channel).ending line.network.nextRequest
            = .completed time response rest := by
        rw [sent]
        cases (line.receipt channel).ending line.network.nextRequest with
        | completed time response rest => exact ⟨fun _ => ⟨_, _, _, rfl⟩, fun _ => rfl⟩
        | failed time cause => exact ⟨nofun, nofun⟩
        | never => exact ⟨nofun, nofun⟩
      rw [decided, Receipt.ending_isCompleted]
      constructor
      · rintro ⟨time, header, body, rest, response, heard, read⟩
        exact ⟨takes, fun _ => ⟨channel, time, header, body, rest, response, found, heard, read⟩⟩
      · intro completes
        obtain ⟨other, time, header, body, rest, response, same, heard, read⟩ :=
          completes.heard answered
        cases same.symm.trans found
        exact ⟨time, header, body, rest, response, heard, read⟩
  · obtain ⟨halt, after, failed, -⟩ := send_untaken takes context
    rw [failed]
    exact ⟨nofun, fun completes => absurd completes.takes takes⟩

end Sending

section Verdicts

variable {command : Command} {context : Correlation} {line middle : Line} {request : Request}
  {response : Response}

/-- A flagged failure is the server's word, or there is no reading it. -/
theorem ends_replyDocument (address : Address) (response : Response) :
    Ends Halt.Grounded (replyDocument address response) := by
  cases response with
  | message message => exact .pure _
  | reply reply =>
    unfold replyDocument
    dsimp only
    -- Of a reply only the first document is read, and only with the flag in order to fail.
    split
    · exact .fail ⟨_, rfl, rfl⟩
    · split
      · exact .bind (Exchange.ends_check (grounded_decode _)) fun _ =>
          .bind (Exchange.ends_modify _ _) fun _ => .fail ⟨_, rfl, rfl⟩
      · exact .pure _

/-- A command to which a response came back ends with the verdict of the server, and leaves the
connection as the exchange did. -/
theorem sendCommand_heard (framed : command.request line.connection.description = .ok request)
    (heard : send request context line = (.ok (some response), middle)) :
    (sendCommand command context line).2.still = middle.still ∧
      ∀ halt, (sendCommand command context line).1 = .error halt → halt.Grounded := by
  let address := line.connection.id.address
  -- What is made of the response touches neither the connection nor what was sent.
  have kept : Work.Keeps Line.still (judgeResponse address response) :=
    .bind (still_replyDocument address response) fun _ => .bind (Exchange.keeps_check _) fun _ =>
      .pure _
  have ends : Ends Halt.Grounded (judgeResponse address response) :=
    .bind (ends_replyDocument address response) fun _ =>
      .bind (Exchange.ends_check (grounded_ensureSuccess _)) fun _ => .pure _
  rw [sendCommand_answered framed heard]
  refine ⟨kept middle, fun halt failed => ?_⟩
  exact ends middle halt (judgeResponse address response middle).2 (Prod.ext failed rfl)

/-- A command whose exchange does not end well ends as the exchange did. -/
theorem sendCommand_unheard {halt : Halt}
    (framed : command.request line.connection.description = .ok request)
    (failed : send request context line = (.error halt, middle)) :
    sendCommand command context line = (.error halt, middle) := by
  simp only [sendCommand, Work.bind_apply, Work.get_apply, framed, Exchange.check_ok, failed]

/-- A command without a form is not sent. -/
theorem sendCommand_unframed {cause : Cause}
    (unframed : command.request line.connection.description = .error cause) :
    sendCommand command context line = (.error (.ofCause cause), line) := by
  simp only [sendCommand, Work.bind_apply, Work.get_apply, unframed]
  rfl

end Verdicts

namespace KillCursors

/-- The request in the dialect of the server. -/
def opening (asked : KillCursors) (description : ConnectionDescription) : Except Cause Request :=
  if description.hasFindCommand then asked.command.request description else .ok asked.legacyRequest

/-- The request goes out over the line, and its exchange is completed. -/
def Delivered (asked : KillCursors) (line : Line) : Prop :=
  ∃ request, asked.opening line.connection.description = .ok request ∧ line.Completes request

/-- No exchange starts: the request has no form, or it cannot go out over the line. -/
def Withheld (asked : KillCursors) (line : Line) : Prop :=
  ∀ request, asked.opening line.connection.description = .ok request → ¬ line.Starts request

variable {asked : KillCursors} {line middle : Line} {request : Request} {halt : Halt}

/-- As a command, the request is settled when it is known what came of the command. -/
theorem runCommand_eq_settle (asked : KillCursors) (line : Line) :
    asked.runCommand line = asked.settle (sendCommand asked.command asked.context line).1
      (sendCommand asked.command asked.context line).2 := by
  unfold runCommand
  rcases sendCommand asked.command asked.context line with
    ⟨(error | _ | _) | reply, after⟩ <;> rfl

/-- A failure that is not the stream's is passed over while the connection is open. -/
theorem settle_grounded (grounded : halt.Grounded) (line : Line) :
    asked.settle (.error halt) line
      = if line.connection.closed then (.error halt, line)
        else (.ok (), line.emit (.killFailed asked.target asked.cursors)) := by
  obtain ⟨cause, rfl, sound⟩ := grounded
  show (if cause.isNetwork || line.connection.closed then _ else _) = _
  rw [sound, Bool.false_or]
  rfl

/-- On a closed connection, every failure is told. -/
theorem settle_closed (closed : line.connection.closed = true) (halt : Halt) :
    asked.settle (.error halt) line = (.error halt, line) := by
  cases halt with
  | failed error =>
    show (if error.cause.isNetwork || line.connection.closed then _ else _) = _
    rw [closed, Bool.or_true]
    rfl
  | panicked => rfl
  | dropped => rfl

/-- Where there are no cursors to give up, nothing is done. -/
theorem run_empty (none : asked.cursors = []) (line : Line) : asked.run line = (.ok (), line) := by
  simp only [run, none, List.isEmpty_nil, if_true]
  rfl

/-- There are cursors to give up, and the server takes a command for it. -/
theorem run_command (some : asked.cursors ≠ [])
    (commands : line.connection.description.hasFindCommand = true) :
    asked.run line = asked.runCommand line := by
  have full : asked.cursors.isEmpty = false := by simpa using some
  simp only [run, full, Bool.false_eq_true, if_false, Work.bind_apply, Work.get_apply, commands,
    if_true]

/-- There are cursors to give up, and the server takes a legacy request for it. -/
theorem run_legacy (some : asked.cursors ≠ [])
    (legacy : line.connection.description.hasFindCommand = false) :
    asked.run line = (send asked.legacyRequest asked.context >>= fun _ => pure ()) line := by
  have full : asked.cursors.isEmpty = false := by simpa using some
  simp only [run, full, Bool.false_eq_true, if_false, Work.bind_apply, Work.get_apply, legacy]

/-- Where an exchange starts, the operation succeeds when the exchange is completed, and leaves the
connection and the messages as the exchange does. -/
theorem run_started (some : asked.cursors ≠ [])
    (opens : asked.opening line.connection.description = .ok request)
    (starts : line.Starts request) :
    (asked.run line).1.isOk = (send request asked.context line).1.isOk ∧
      (asked.run line).2.still = (send request asked.context line).2.still := by
  have standing := closed_started starts asked.context
  cases dialect : line.connection.description.hasFindCommand with
  | true =>
    have framed : asked.command.request line.connection.description = .ok request := by
      rwa [opening, if_pos dialect] at opens
    rw [run_command some dialect, runCommand_eq_settle]
    rcases sent : send request asked.context line with ⟨halt | response, middle⟩ <;>
      rw [sent] at standing
    · -- An exchange that failed has closed the connection, so that the failure is told.
      rw [sendCommand_unheard framed sent]
      dsimp only
      rw [settle_closed standing]
      exact ⟨rfl, rfl⟩
    · cases response with
      | none =>
        -- A command of this kind is never sent without waiting for its answer.
        have answered := Command.expectsResponse_request framed
        have completes : line.Completes request := by
          apply (send_isOk_iff line request asked.context).mp
          rw [sent]
          rfl
        obtain ⟨-, heard, -⟩ := send_answered completes.takes (by rw [answered]; rfl) sent
        exact absurd rfl heard
      | some response =>
        -- Whatever the server says of the request, it was reached.
        obtain ⟨still, grounds⟩ := sendCommand_heard framed sent
        rcases verdict : sendCommand asked.command asked.context line with ⟨halt | reply, last⟩ <;>
          rw [verdict] at still grounds
        · have opened : last.connection.closed = false := by
            rw [show last.connection = middle.connection from congrArg Prod.fst still]
            exact standing
          rw [settle_grounded (grounds halt rfl), if_neg (by simp [opened])]
          exact ⟨rfl, still⟩
        · exact ⟨rfl, still⟩
  | false =>
    have same : request = asked.legacyRequest := by
      rw [opening, if_neg (by simp [dialect])] at opens
      exact (Except.ok.inj opens).symm
    rw [run_legacy some dialect, ← same, Work.bind_apply]
    rcases send request asked.context line with ⟨halt | response, middle⟩ <;> exact ⟨rfl, rfl⟩

/-- Where no exchange starts, nothing goes out and nothing happens to the connection. The operation
succeeds all the same when it is a command over an open connection. -/
theorem run_withheld (some : asked.cursors ≠ []) (withheld : asked.Withheld line) :
    ((asked.run line).1.isOk = true ↔
      line.connection.description.hasFindCommand = true ∧ line.connection.closed = false) ∧
      (asked.run line).2.still = line.still := by
  cases dialect : line.connection.description.hasFindCommand with
  | true =>
    rw [run_command some dialect, runCommand_eq_settle]
    have failed : ∃ halt last, sendCommand asked.command asked.context line = (.error halt, last) ∧
        halt.Grounded ∧ last.still = line.still := by
      cases framed : asked.command.request line.connection.description with
      | error cause =>
        exact ⟨_, _, sendCommand_unframed framed,
          ⟨cause, rfl, asked.command.grounded_request _ cause framed⟩, rfl⟩
      | ok request =>
        have unstarted := withheld request (by rw [opening, if_pos dialect, framed])
        obtain ⟨halt, last, refused, grounded, still⟩ := send_unstarted unstarted asked.context
        exact ⟨halt, last, sendCommand_unheard framed refused, grounded, still⟩
    obtain ⟨halt, last, ended, grounded, still⟩ := failed
    have same : last.connection = line.connection := congrArg Prod.fst still
    rw [ended]
    dsimp only
    rw [settle_grounded grounded, same]
    -- The one thing that counts is whether the connection is open.
    cases line.connection.closed with
    | true => exact ⟨⟨nofun, nofun⟩, still⟩
    | false => exact ⟨⟨fun _ => ⟨rfl, rfl⟩, fun _ => rfl⟩, still⟩
  | false =>
    have unstarted := withheld asked.legacyRequest (by rw [opening, if_neg (by simp [dialect])])
    obtain ⟨halt, last, refused, -, still⟩ := send_unstarted unstarted asked.context
    rw [run_legacy some dialect, Work.bind_apply, refused]
    exact ⟨⟨nofun, nofun⟩, still⟩

/-- What is not withheld gets to an exchange. -/
theorem exists_started (started : ¬ asked.Withheld line) : ∃ request,
    asked.opening line.connection.description = .ok request ∧ line.Starts request := by
  simpa [Withheld] using started

/-- A request that is delivered was not withheld. -/
theorem Delivered.not_withheld (delivered : asked.Delivered line) : ¬ asked.Withheld line := by
  obtain ⟨request, opens, completes⟩ := delivered
  exact fun withheld => withheld request opens completes.takes.starts

/-- Where a request gets to an exchange, it is delivered exactly when the exchange is completed. -/
theorem delivered_iff (opens : asked.opening line.connection.description = .ok request) :
    asked.Delivered line ↔ line.Completes request := by
  constructor
  · rintro ⟨other, same, completes⟩
    cases opens.symm.trans same
    exact completes
  · intro completes
    exact ⟨request, opens, completes⟩

/-- A request that is delivered is on the wire, once. -/
theorem run_delivered (some : asked.cursors ≠ []) (delivered : asked.Delivered line) :
    ∃ request id bytes, asked.opening line.connection.description = .ok request ∧
      request.encode id = .ok bytes ∧
      (asked.run line).2.network.sent
        = line.network.sent ++ [(line.connection.id.number, bytes)] := by
  obtain ⟨request, opens, completes⟩ := delivered
  have still := (run_started some opens completes.takes.starts).2
  have done : (send request asked.context line).1.isOk = true :=
    (send_isOk_iff line request asked.context).mpr completes
  -- An exchange that is completed has put its request on the wire.
  rcases sent : send request asked.context line with ⟨halt | response, middle⟩ <;>
    rw [sent] at done still
  · cases done
  · obtain ⟨id, bytes, encoded, posted⟩ := send_ok sent
    exact ⟨request, id, bytes, opens, encoded, (congrArg Prod.snd still).trans posted⟩

/-- Work without a value has come to its end exactly when it has not failed. -/
theorem eq_ok_iff_isOk (outcome : Except Halt Unit) :
    outcome = .ok () ↔ outcome.isOk = true := by
  cases outcome with
  | error halt => exact ⟨nofun, nofun⟩
  | ok value => exact ⟨fun _ => rfl, fun _ => rfl⟩

variable {result : Except Halt Unit} {after : Line}

/-- To give cursors up succeeds when there are none, and when the request goes out and its exchange
is completed, whatever the server says of it. It also succeeds, without a message, when the request
is a command that never gets to an exchange over an open connection. An exchange that starts and
fails leaves the connection closed. -/
theorem run_outcome (asked : KillCursors) (closes : Bool)
    (ran : closingAfter closes asked.run line = (result, after)) :
    (result = .ok () ↔ asked.cursors = [] ∨ asked.Delivered line ∨
      (asked.Withheld line ∧ line.connection.description.hasFindCommand = true ∧
        line.connection.closed = false)) ∧
    (asked.cursors = [] ∨ asked.Withheld line → after.network.sent = line.network.sent) ∧
    (asked.cursors ≠ [] → asked.Delivered line → ∃ request id bytes,
      asked.opening line.connection.description = .ok request ∧ request.encode id = .ok bytes ∧
      after.network.sent = line.network.sent ++ [(line.connection.id.number, bytes)]) ∧
    (∀ halt, result = .error halt → ¬ asked.Withheld line → after.connection.closed = true) := by
  rw [closingAfter_apply] at ran
  obtain ⟨rfl, rfl⟩ := Prod.mk.inj ran
  rw [eq_ok_iff_isOk, Line.sent_afterwards, Line.closed_afterwards]
  by_cases none : asked.cursors = []
  · rw [run_empty none]
    refine ⟨⟨fun _ => .inl none, fun _ => rfl⟩, fun _ => rfl, fun some => absurd none some, ?_⟩
    intro halt failed
    cases failed
  refine ⟨?_, ?_, fun _ delivered => run_delivered none delivered, ?_⟩
  · -- What decides is whether an exchange starts, and then whether it is completed.
    by_cases withheld : asked.Withheld line
    · rw [(run_withheld none withheld).1]
      constructor
      · intro passed
        exact .inr (.inr ⟨withheld, passed⟩)
      · rintro (empty | delivered | ⟨-, passed⟩)
        · exact absurd empty none
        · exact absurd withheld delivered.not_withheld
        · exact passed
    · obtain ⟨request, opens, starts⟩ := exists_started withheld
      rw [(run_started none opens starts).1, send_isOk_iff, ← delivered_iff opens]
      constructor
      · intro delivered
        exact .inr (.inl delivered)
      · rintro (empty | delivered | ⟨other, -⟩)
        · exact absurd empty none
        · exact delivered
        · exact absurd other withheld
  · rintro (empty | withheld)
    · exact absurd empty none
    · exact congrArg Prod.snd (run_withheld none withheld).2
  · intro halt failed started
    obtain ⟨request, opens, starts⟩ := exists_started started
    obtain ⟨decided, still⟩ := run_started none opens starts
    rw [show (asked.run line).2.connection = (send request asked.context line).2.connection from
      congrArg Prod.fst still, closed_started starts, ← decided, failed]
    rfl

/-- A command that is longer than the server takes is passed over: nothing goes out, and no error
tells so. -/
theorem run_outcome_long :
    let description : ConnectionDescription := { address := default, messageLimit := 50 }
    let line : Line := { connection := .fresh ⟨default, 1⟩ description {}, network := {} }
    let asked : KillCursors := { target := ⟨"db", "c"⟩, cursors := [1] }
    asked.Withheld line ∧
      ∃ after, closingAfter false asked.run line = (.ok (), after) ∧ after.network.sent = [] := by
  intro description line asked
  have withheld : asked.Withheld line := by
    intro request opens starts
    -- With its header the message has eighty-two bytes.
    have refused : (asked.opening line.connection.description).toOption.all
        (fun request => !(register request {} line).1.isOk) = true := by
      decide +kernel
    have accepted : (register request {} line).1.isOk = true := register_isOk.mpr starts.1
    rw [opens] at refused
    simp [Except.toOption, accepted] at refused
  rcases ran : closingAfter false asked.run line with ⟨result, after⟩
  obtain ⟨succeeds, silent, -⟩ := run_outcome asked false ran
  have passed : result = .ok () := by
    apply succeeds.mpr
    exact .inr (.inr ⟨withheld, by decide, rfl⟩)
  exact ⟨withheld, after, by rw [passed], silent (.inr withheld)⟩

end KillCursors

end DocWire
