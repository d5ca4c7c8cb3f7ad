import DocWire.Proofs.Cursor.Fetch
import DocWire.Proofs.Document.Whole

/-! Going on with a cursor by a command: which responses are told as a cursor that is gone. Only the
code of a failure counts; the flag that says the same of a legacy reply is not looked at. -/

namespace DocWire

section Codes

/-- The code of a failure is given as a whole number that fits a word. -/
theorem CommandError.codeOf?_eq_some {value : Value} {code : Int32} :
    codeOf? value = some code ↔ value.whole? = some code.toInt64 := by
  unfold codeOf?
  cases value.whole? with
  | none => simp
  | some number =>
    show (if _ then some (Int32.ofInt number.toInt) else none) = some code ↔ _
    rw [Option.some.injEq, ← Int64.toInt_inj, Int32.toInt_toInt64]
    have least := code.le_toInt
    have greatest := code.toInt_lt
    refine ⟨?_, ?_⟩
    -- A number outside the range of a word is no code at all, so that no two numbers share one.
    · intro same
      split at same
      · rw [← Option.some.inj same, Int32.toInt_ofInt_of_le (by omega) (by omega)]
      · cases same
    · intro same
      rw [same, if_pos (by omega), Int32.ofInt_toInt]

/-- The document of a failure tells by its code that a cursor is gone, in any numeric type. -/
def Document.TellsGone (document : Document) : Prop :=
  ∃ value, document.get? "code" = some value ∧
    (value = .int32 43 ∨ value = .int64 43 ∨ value = .double 0x4045800000000000)

theorem CommandError.code_eq_gone {document : Document} :
    (ofDocument document).code = cursorNotFoundCode ↔ document.TellsGone := by
  unfold ofDocument Document.TellsGone
  dsimp only
  cases document.get? "code" with
  | none =>
    -- Without a code, a failure has one of its own.
    refine ⟨fun same => absurd same (by decide), ?_⟩
    rintro ⟨value, found, -⟩
    cases found
  | some value =>
    have numbers : codeOf? value = some cursorNotFoundCode ↔ value.whole? = some (Int64.ofNat 43) :=
      codeOf?_eq_some
    have kinds : value.whole? = some (Int64.ofNat 43) ↔
        value = .int32 43 ∨ value = .int64 43 ∨ value = .double 0x4045800000000000 :=
      @Value.whole?_eq_some value 43 47 (by decide) (by decide) (by decide) (by decide)
    have known : ((some value).bind codeOf?).getD unknownCode = cursorNotFoundCode ↔
        codeOf? value = some cursorNotFoundCode := by
      rw [Option.bind_some]
      cases codeOf? value <;> simp [unknownCode, cursorNotFoundCode]
    rw [known, numbers, kinds]
    refine ⟨fun kind => ⟨value, rfl, kind⟩, ?_⟩
    rintro ⟨other, found, kind⟩
    rwa [Option.some.inj found]

end Codes

/-- What the document of a failure is told as: the whole document, or that it cannot be read. -/
def RawDocument.failure (document : RawDocument) : Cause :=
  match document.toDocument? with
  | none => .response .malformed
  | some found => .command (CommandError.ofDocument found)

/-- A response reports a failure by a document that is flagged as one, or that does not report a
success. -/
inductive Response.Reports : Response → RawDocument → Prop where
  | flagged {reply : Reply} {first : RawDocument} {rest : List RawDocument}
    (begins : reply.documents = first :: rest) (flag : reply.flags.queryFailure = true) :
    Reports (.reply reply) first
  | reply {reply : Reply} {first : RawDocument} {rest : List RawDocument}
    (begins : reply.documents = first :: rest) (unflagged : reply.flags.queryFailure = false)
    (failed : first.reportsSuccess = false) : Reports (.reply reply) first
  | message {message : Message} (failed : message.body.reportsSuccess = false) :
    Reports (.message message) message.body

/-- A response grants what was asked for by a document that reports a success. -/
inductive Response.Grants : Response → RawDocument → Prop where
  | reply {reply : Reply} {first : RawDocument} {rest : List RawDocument}
    (begins : reply.documents = first :: rest) (unflagged : reply.flags.queryFailure = false)
    (done : first.reportsSuccess = true) : Grants (.reply reply) first
  | message {message : Message} (done : message.body.reportsSuccess = true) :
    Grants (.message message) message.body

/-- A response holds a document that grants or reports something, or it holds none. -/
theorem Response.grants_or_reports (response : Response) :
    (∃ document, response.Grants document) ∨ (∃ failure, response.Reports failure) ∨
      ∃ reply, response = .reply reply ∧ reply.documents = [] := by
  cases response with
  | message message =>
    cases success : message.body.reportsSuccess with
    | true => exact .inl ⟨_, .message success⟩
    | false => exact .inr (.inl ⟨_, .message success⟩)
  | reply reply =>
    -- Of a reply, the first document decides, and the flag before what it says.
    cases begins : reply.documents with
    | nil => exact .inr (.inr ⟨reply, rfl, begins⟩)
    | cons first rest =>
      cases flag : reply.flags.queryFailure with
      | true => exact .inr (.inl ⟨first, .flagged begins flag⟩)
      | false =>
        cases success : first.reportsSuccess with
        | true => exact .inl ⟨first, .reply begins flag success⟩
        | false => exact .inr (.inl ⟨first, .reply begins flag success⟩)

section Judging

variable {response : Response} {failure document : RawDocument}

/-- What a response says: its document if it reports a success. -/
def judgeResponse (address : Address) (response : Response) : Exchange RawDocument := do
  let reply ← replyDocument address response
  Exchange.check reply.ensureSuccess
  return reply

/-- A command that is answered comes to what the response says. -/
theorem sendCommand_answered {command : Command} {context : Correlation} {request : Request}
    {line after : Line} (framed : command.request line.connection.description = .ok request)
    (sent : send request context line = (.ok (some response), after)) :
    sendCommand command context line
      = judgeResponse line.connection.id.address response after := by
  simp only [sendCommand, judgeResponse, Work.bind_apply, Work.get_apply, framed,
    Exchange.check_ok, sent]

theorem RawDocument.ensureSuccess_failed (failed : failure.reportsSuccess = false) :
    failure.ensureSuccess = .error failure.failure := by
  unfold ensureSuccess RawDocument.failure decode
  rw [failed]
  cases failure.toDocument? <;> rfl

/-- A failure ends the work with what its document is told as, and leaves the connection alone. -/
theorem judgeResponse_reported (reported : response.Reports failure) (address : Address)
    (line : Line) : ∃ last, last.connection = line.connection ∧
      judgeResponse address response line = (.error (.ofCause failure.failure), last) := by
  cases reported with
  | flagged begins flag =>
    -- A failure that is flagged is reported as an event as well, if its document can be read.
    simp only [judgeResponse, replyDocument, begins, flag, if_true, Work.bind_apply,
      flaggedFailure_apply, RawDocument.failure]
    cases failure.toDocument? with
    | none => exact ⟨line, rfl, rfl⟩
    | some found =>
      refine ⟨_, ?_, rfl⟩
      rfl
  | reply begins unflagged failed =>
    refine ⟨line, rfl, ?_⟩
    simp only [judgeResponse, replyDocument, begins, unflagged, Bool.false_eq_true, if_false,
      Work.bind_apply, Work.pure_apply, RawDocument.ensureSuccess_failed failed]
    rfl
  | message failed =>
    refine ⟨line, rfl, ?_⟩
    simp only [judgeResponse, replyDocument, Work.bind_apply, Work.pure_apply,
      RawDocument.ensureSuccess_failed failed]
    rfl

/-- A success is handed on. -/
theorem judgeResponse_granted (granted : response.Grants document) (address : Address)
    (line : Line) : judgeResponse address response line = (.ok document, line) := by
  cases granted with
  | reply begins unflagged done =>
    simp only [judgeResponse, replyDocument, begins, unflagged, Bool.false_eq_true, if_false,
      Work.bind_apply, Work.pure_apply, RawDocument.ensureSuccess, done, if_true, Exchange.check_ok]
  | message done =>
    simp only [judgeResponse, replyDocument, Work.bind_apply, Work.pure_apply,
      RawDocument.ensureSuccess, done, if_true, Exchange.check_ok]

end Judging

section Batches

/-- Work that ends without an answer in some ways only. -/
def Exchange.Ends {α : Type} (ways : Halt → Prop) (work : Exchange α) : Prop :=
  ∀ line halt after, work line = (.error halt, after) → ways halt

namespace Exchange.Ends

variable {α β : Type} {ways : Halt → Prop}

theorem pure (value : α) : Ends ways (Pure.pure value : Exchange α) := by
  rintro line halt after ⟨⟩

theorem fail {cause : Cause} (way : ways (.ofCause cause)) :
    Ends ways (fail cause : Exchange α) := by
  rintro line halt after ⟨⟩
  exact way

theorem check {result : Except Cause α}
    (way : ∀ cause, result = .error cause → ways (.ofCause cause)) : Ends ways (check result) := by
  cases result with
  | ok value => exact .pure value
  | error cause => exact .fail (way cause rfl)

/-- Work in two parts ends in the ways of its parts. -/
theorem bind {work : Exchange α} {next : α → Exchange β} (one : Ends ways work)
    (two : ∀ value, Ends ways (next value)) : Ends ways (work >>= next) := by
  intro line halt after ended
  rw [Work.bind_apply] at ended
  -- A halt in the first part is the end of the whole, and else it comes from the second.
  rcases begun : work line with ⟨_ | value, middle⟩ <;> rw [begun] at ended
  · cases ended
    exact one line halt _ begun
  · exact two value middle halt after ended

end Exchange.Ends

variable {α : Type} {decoder : Decoder α}

/-- The ways in which reading a batch ends without one: the server is at fault, or the decoder makes
nothing of a document. -/
def Decoder.Spoils (decoder : Decoder α) (halt : Halt) : Prop :=
  (∃ fault, halt = .ofCause (.response fault)) ∨ decoder.Gives halt

theorem spoils_requireField {β : Type} {key : String} {kind : ElementKind}
    {found : Except RawDocument.Missing β} {cause : Cause}
    (failed : requireField key kind found = .error cause) : decoder.Spoils (.ofCause cause) := by
  cases found with
  | ok value => cases failed
  | error missing =>
    cases failed
    exact .inl ⟨_, rfl⟩

theorem spoils_cursorNumber {cursor : RawDocument} {cause : Cause}
    (failed : cursorNumber cursor = .error cause) : decoder.Spoils (.ofCause cause) := by
  unfold cursorNumber at failed
  cases found : requireField "id" .int64 (cursor.scalar "id" .int64) with
  | error missing =>
    rw [found] at failed
    cases failed
    exact spoils_requireField found
  | ok value =>
    rw [found] at failed
    -- A field of this kind holds such a number and no other value.
    cases value with
    | int64 number => cases failed
    | _ =>
      cases failed
      exact .inl ⟨_, rfl⟩

theorem ends_decodeElements (field : String) (broken : Bool) (elements : List RawElement) :
    Exchange.Ends decoder.Spoils (decodeElements decoder field broken elements) := by
  -- The elements are taken one by one; the end of a broken array is a fault of its own.
  induction elements with
  | nil =>
    unfold decodeElements
    split
    · exact .fail (.inl ⟨_, rfl⟩)
    · exact .pure _
  | cons element rest ih =>
    unfold decodeElements
    split
    · exact .fail (.inl ⟨_, rfl⟩)
    · split
      · exact .fail (.inl ⟨_, rfl⟩)
      · refine .bind ?_ fun front => .bind ih fun back => .pure _
        intro line halt after ended
        -- The document that is decoded shows the decoder to give that end.
        unfold Exchange.decode at ended
        cases decoded : decoder ⟨element.payload⟩ with
        | ok value =>
          rw [decoded] at ended
          cases ended
        | error other =>
          rw [decoded] at ended
          cases ended
          exact .inr ⟨_, decoded⟩

/-- A batch that is not read is the fault of the server, or of the decoder. -/
theorem ends_readBatch (reply : RawDocument) (field : String) (asked : Namespace)
    (address : Address) :
    Exchange.Ends decoder.Spoils (readBatch reply field asked address decoder) :=
  .bind (.check fun _ => spoils_requireField) fun _ =>
    .bind (.check fun _ => spoils_cursorNumber) fun _ =>
      .bind (.check fun _ => spoils_requireField) fun _ =>
        .bind (ends_decodeElements _ _ _) fun _ => .pure _

end Batches

namespace GetMore

variable {α : Type} {request : GetMore} {line after : Line} {response : Response}
  {failure document : RawDocument}

/-- The request goes out as a command, and a response comes back. -/
structure Heard (request : GetMore) (line : Line) (response : Response) (after : Line) : Prop where
  commands : line.connection.description.hasFindCommand = true
  sent : ∃ framed, request.command.request line.connection.description = .ok framed ∧
    send framed request.context
      (line.emit (.gettingMore line.connection.id request.cursor request.target))
        = (.ok (some response), after)

/-- A failure is told with its document, unless its code is that of a cursor that is gone. -/
theorem explain_failure (cursor : ServerCursor) (failure : RawDocument) :
    explain cursor (.ofCause failure.failure) =
      match failure.toDocument? with
      | none => .ofCause (.response .malformed)
      | some found =>
        if (CommandError.ofDocument found).code = cursorNotFoundCode then
          .ofCause (.cursorNotFound cursor)
        else .ofCause (.command (CommandError.ofDocument found)) := by
  unfold RawDocument.failure
  cases failure.toDocument? with
  | none => rfl
  | some found =>
    simp only [explain, Halt.ofCause, Error.ofCause, Cause.code?, Option.some.injEq]

namespace Heard

/-- The request comes to what the response says. -/
theorem sendCommand_eq (heard : request.Heard line response after) :
    sendCommand request.command request.context
        (line.emit (.gettingMore line.connection.id request.cursor request.target))
      = judgeResponse line.connection.id.address response after := by
  obtain ⟨-, framed, spelled, sent⟩ := heard
  exact sendCommand_answered spelled sent

/-- The connection is open when the response is there. -/
theorem opened (heard : request.Heard line response after) : after.connection.closed = false := by
  obtain ⟨-, framed, -, sent⟩ := heard
  exact closed_answered sent

/-- What ends the judging of a response ends the request, once it is explained. -/
theorem fails_of_judge (heard : request.Heard line response after) {closes : Bool}
    {cause told : Cause} {last : Line} (same : last.connection = after.connection)
    (judged : judgeResponse line.connection.id.address response after
      = (.error (.ofCause cause), last))
    (explained : explain ⟨request.cursor, line.connection.id.address⟩ (.ofCause cause)
      = .ofCause told) : (Fetch.getMore request).Fails closes line told := by
  have kept : last.connection.closed = false := by
    rw [same]
    exact heard.opened
  apply Fetch.fails_of_run kept
  -- The judging comes before the batch is read, so that the decoder has no part in this.
  intro α decoder
  show request.run decoder line = _
  simp only [run, Work.bind_apply, Work.get_apply, heard.commands, if_true, Exchange.emit,
    Work.modify_apply, runCommand, explaining, Line.connection_emit, heard.sendCommand_eq, judged,
    explained]

/-- A response that reports a failure ends the request with what the failure is told as. -/
theorem fails_reported (heard : request.Heard line response after) {closes : Bool} {told : Cause}
    (reported : response.Reports failure)
    (explained : explain ⟨request.cursor, line.connection.id.address⟩ (.ofCause failure.failure)
      = .ofCause told) : (Fetch.getMore request).Fails closes line told := by
  obtain ⟨last, same, judged⟩ := judgeResponse_reported reported line.connection.id.address after
  exact heard.fails_of_judge same judged explained

/-- A failure with the code of a cursor that is gone is told as that. -/
theorem fails_gone (heard : request.Heard line response after) {closes : Bool}
    (reported : response.Reports failure) {found : Document}
    (known : failure.toDocument? = some found) (gone : found.TellsGone) :
    (Fetch.getMore request).Fails closes line
      (.cursorNotFound ⟨request.cursor, line.connection.id.address⟩) := by
  apply heard.fails_reported reported
  simp only [explain_failure, known, CommandError.code_eq_gone.mpr gone, if_true]

/-- A failure with another code is told with its document. -/
theorem fails_command (heard : request.Heard line response after) {closes : Bool}
    (reported : response.Reports failure) {found : Document}
    (known : failure.toDocument? = some found) (there : ¬ found.TellsGone) :
    (Fetch.getMore request).Fails closes line (.command (CommandError.ofDocument found)) := by
  have other : ¬ (CommandError.ofDocument found).code = cursorNotFoundCode := by
    intro same
    exact there (CommandError.code_eq_gone.mp same)
  apply heard.fails_reported reported
  simp only [explain_failure, known, other, if_false]

/-- A failure that cannot be read is the server's fault. -/
theorem fails_malformed (heard : request.Heard line response after) {closes : Bool}
    (reported : response.Reports failure) (broken : failure.toDocument? = none) :
    (Fetch.getMore request).Fails closes line (.response .malformed) := by
  apply heard.fails_reported reported
  simp only [explain_failure, broken]

/-- A response without any document is the server's fault. -/
theorem fails_empty {reply : Reply} (heard : request.Heard line (.reply reply) after)
    {closes : Bool} (empty : reply.documents = []) :
    (Fetch.getMore request).Fails closes line (.response .noReplyDocument) := by
  have judged : judgeResponse line.connection.id.address (.reply reply) after
      = (.error (.ofCause (.response .noReplyDocument)), after) := by
    simp only [judgeResponse, replyDocument, empty, Work.bind_apply]
    rfl
  exact heard.fails_of_judge rfl judged rfl

/-- A response that reports a success is read as a batch, whatever its flags. -/
theorem run_granted (heard : request.Heard line response after)
    (granted : response.Grants document) (decoder : Decoder α) :
    (request.run decoder line).1
      = (readBatch document "nextBatch" request.target line.connection.id.address decoder
          after).1 := by
  simp only [run, Work.bind_apply, Work.get_apply, heard.commands, if_true, Exchange.emit,
    Work.modify_apply, runCommand, explaining, Line.connection_emit, heard.sendCommand_eq,
    judgeResponse_granted granted]
  rcases readBatch document "nextBatch" request.target line.connection.id.address decoder after
    with ⟨_ | batch, last⟩ <;> rfl

/-- A response that reports a success is never told as a cursor that is gone, not even to every
decoder. -/
theorem not_fails_granted (heard : request.Heard line response after) {closes : Bool}
    (granted : response.Grants document) (cursor : ServerCursor) :
    ¬ (Fetch.getMore request).Fails closes line (.cursorNotFound cursor) := by
  rintro ⟨last, -, same⟩
  -- A decoder that takes any document has no part in how the batch ends.
  have ended : (request.run Decoder.bytes line).1 = .error (.ofCause (.cursorNotFound cursor)) :=
    congrArg Prod.fst (same _ Decoder.bytes)
  rw [heard.run_granted granted Decoder.bytes] at ended
  rcases read : readBatch document "nextBatch" request.target line.connection.id.address
    Decoder.bytes after with ⟨halt | batch, final⟩ <;> rw [read] at ended
  · cases ended
    rcases ends_readBatch _ _ _ _ _ _ _ read with ⟨fault, other⟩ | ⟨found, other⟩
    · cases other
    · cases other
  · cases ended

end Heard

/-- What going on with a cursor by a command comes to, once a response is there. It is told as a
cursor that is gone just when the response reports a failure with the code for that, in any numeric
type and in either framing; any other failure is told with its document. The flag of a legacy reply
that the cursor was not found has no part in it: a reply with the flag that reports a success is
read like any other. -/
theorem command_outcome (request : GetMore) (closes : Bool) (line after : Line)
    (response : Response) (heard : request.Heard line response after) :
    let address := line.connection.id.address
    let fails := (Fetch.getMore request).Fails closes line
    (fails (.cursorNotFound ⟨request.cursor, address⟩) ↔
      ∃ failure found, response.Reports failure ∧ failure.toDocument? = some found ∧
        found.TellsGone) ∧
    (∀ failure, response.Reports failure →
      (∀ found, failure.toDocument? = some found → ¬ found.TellsGone →
        fails (.command (CommandError.ofDocument found))) ∧
      (failure.toDocument? = none → fails (.response .malformed))) ∧
    (∀ reply, response = .reply reply → reply.documents = [] →
      fails (.response .noReplyDocument)) ∧
    (∀ document, response.Grants document → ∀ {α : Type} (decoder : Decoder α),
      (closingAfter closes (request.run decoder) line).1
        = (readBatch document "nextBatch" request.target address decoder after).1) := by
  intro address fails
  refine ⟨⟨?_, ?_⟩, ?_, ?_, ?_⟩
  · intro gone
    -- Whatever else the response says is told as something else.
    rcases response.grants_or_reports with
      ⟨document, granted⟩ | ⟨failure, reported⟩ | ⟨reply, rfl, empty⟩
    · exact absurd gone (heard.not_fails_granted granted _)
    · cases known : failure.toDocument? with
      | none => cases Fetch.Fails.unique gone (heard.fails_malformed reported known)
      | some found =>
        by_cases tells : found.TellsGone
        · exact ⟨failure, found, reported, known, tells⟩
        · cases Fetch.Fails.unique gone (heard.fails_command reported known tells)
    · cases Fetch.Fails.unique gone (heard.fails_empty empty)
  · rintro ⟨failure, found, reported, known, tells⟩
    exact heard.fails_gone reported known tells
  · intro failure reported
    exact ⟨fun found known there => heard.fails_command reported known there,
      heard.fails_malformed reported⟩
  · rintro reply rfl empty
    exact heard.fails_empty empty
  · intro document granted α decoder
    exact heard.run_granted granted decoder

/-- A reply with the flag that the cursor was not found is read as the batch that it holds. -/
theorem command_outcome_flagged :
    let address : Address := default
    let description : ConnectionDescription := { address, wireVersion := 4 }
    let batch : Document := [("id", .int64 9), ("nextBatch", .array [.document []])]
    let document : RawDocument :=
      ⟨((encodeFields? [("cursor", .document batch), ("ok", .int32 1)]).map enclosed).getD []⟩
    let reply : Reply :=
      { flags := { cursorNotFound := true }, count := 1, documents := [document] }
    let answer : Delivery :=
      { bytes := [98, 0, 0, 0, 0, 0, 0, 0, 0, 0, 0, 0, 1, 0, 0, 0, 1, 0, 0, 0, 0, 0, 0, 0,
          0, 0, 0, 0, 0, 0, 0, 0, 1, 0, 0, 0] ++ document.bytes }
    let line : Line :=
      { connection := .fresh ⟨address, 1⟩ description {}
        network := { script := [fun _ => [answer]] } }
    let request : GetMore := { target := ⟨"db", "c"⟩, cursor := 7, toReturn := 0 }
    (∃ after, request.Heard line (.reply reply) after) ∧
      ¬ (Fetch.getMore request).Fails false line (.cursorNotFound ⟨7, address⟩) ∧
      ∃ found, (request.run Decoder.bytes line).1 = .ok found ∧ found.results.length = 1 := by
  intro address description batch document reply answer line request
  let opening := line.emit (.gettingMore line.connection.id request.cursor request.target)
  have heard : ∃ after, request.Heard line (.reply reply) after := by
    have framed : (match request.command.request description with
        | .ok framed => heardReply? (send framed {} opening).1
        | .error _ => none) = some reply := by decide +kernel
    split at framed
    · rename_i spelled
      obtain ⟨after, sent⟩ := send_of_heard framed
      exact ⟨after, rfl, _, spelled, sent⟩
    · cases framed
  obtain ⟨after, heard⟩ := heard
  obtain ⟨gone, -⟩ := command_outcome request false line after (.reply reply) heard
  have success : document.reportsSuccess = true := by decide +kernel
  have read : (match (request.run Decoder.bytes line).1 with
      | .ok found => found.results.length == 1
      | .error _ => false) = true := by decide +kernel
  refine ⟨⟨after, heard⟩, ?_, ?_⟩
  · intro fails
    obtain ⟨failure, found, reported, -⟩ := gone.mp fails
    -- The reply reports no failure, by its flags or by its document.
    cases reported with
    | flagged begins flag => cases flag
    | reply begins unflagged failed =>
      cases begins
      rw [success] at failed
      cases failed
  · split at read
    · rename_i found ended
      exact ⟨found, ended, by simpa using read⟩
    · cases read

end GetMore

end DocWire
