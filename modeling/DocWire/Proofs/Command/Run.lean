import DocWire.Command.Run
import DocWire.Proofs.Command.Payload
import DocWire.Proofs.Connection.Exchange
import DocWire.Proofs.Document.Fields

/-! Commands with a payload: what is prepared, and what becomes of the payload when the command is
run. -/

namespace DocWire

/-- The request carries the documents in the field of the command that they belong to: beside the
body in the current framing, else as the items of an array in the query. -/
def Request.Carries (identifier : String) (documents : List RawDocument) : Request → Prop
  | .message content => content.sequences = [⟨identifier, documents⟩]
  | .query content => ∃ body items, Command.itemsOf documents = .ok items ∧
      Document.get? body identifier = some (.array items) ∧
      -- Routers get the query inside another document.
      (Document.encode body = .ok content.query ∨
        ∃ preference, Document.encode (Command.wrapped body preference) = .ok content.query)
  | _ => False

namespace Command

variable {command : Command} {description : ConnectionDescription} {request : Request}

/-- A message takes the batch beside its body. -/
theorem carries_message {batch : DocumentSequence} {message : Message}
    (framed : command.toMessage description = .ok message)
    (beside : command.sequences = [batch]) :
    (Request.message message).Carries batch.identifier batch.documents := by
  unfold toMessage at framed
  obtain ⟨body, _, framed⟩ := Work.except_bind_ok framed
  obtain ⟨_, _, framed⟩ := Work.except_bind_ok framed
  cases framed
  exact beside

/-- A query takes the batch as an array in its document. -/
theorem carries_query {batch : DocumentSequence} {query : LegacyQuery}
    (framed : command.toQuery description = .ok query) (beside : command.sequences = [batch]) :
    (Request.query query).Carries batch.identifier batch.documents := by
  unfold toQuery at framed
  obtain ⟨body, embedded, framed⟩ := Work.except_bind_ok framed
  obtain ⟨encoded, encodes, framed⟩ := Work.except_bind_ok framed
  obtain ⟨_, _, framed⟩ := Work.except_bind_ok framed
  cases framed
  rw [beside, embed] at embedded
  obtain ⟨items, listed, embedded⟩ := Work.except_bind_ok embedded
  cases embedded
  refine ⟨command.body.insert batch.identifier (.array items), items, listed,
    Document.get?_insert _ _ _, ?_⟩
  -- The wrapper, if there is one, holds the same document.
  rcases queryBody_cases command _ description.type with bare | ⟨preference, wrapped⟩
  · rw [bare] at encodes
    exact .inl encodes
  · rw [wrapped] at encodes
    exact .inr ⟨preference, encodes⟩

/-- A command that goes out with a batch carries its documents, in either framing. -/
theorem carries_request {batch : DocumentSequence}
    (framed : command.request description = .ok request) (beside : command.sequences = [batch]) :
    request.Carries batch.identifier batch.documents := by
  unfold Command.request at framed
  -- The framing is chosen by what the server is known to understand.
  split at framed
  · cases built : command.toMessage description with
    | error cause =>
      rw [built] at framed
      cases framed
    | ok message =>
      rw [built] at framed
      cases framed
      exact carries_message built beside
  · cases built : command.toQuery description with
    | error cause =>
      rw [built] at framed
      cases framed
    | ok query =>
      rw [built] at framed
      cases framed
      exact carries_query built beside

end Command

namespace Exchange

variable {α : Type} {line : Line}

/-- Looking at the session changes nothing. -/
theorem keeps_ensureSession {τ : Type} {view : Line → τ} : Work.Keeps view ensureSession := by
  refine .bind .get fun line => ?_
  -- The session is looked at, and not changed.
  cases line.session with
  | none => exact .pure _
  | some session =>
    dsimp only
    cases session.ensureUsable with
    | error fault => exact .throw _
    | ok _ => exact .pure _

/-- A session that can be used is let pass, and so is work without one. -/
theorem ensureSession_usable
    (usable : ∀ session, line.session = some session → session.ensureUsable = .ok ()) :
    ensureSession line = (.ok (), line) := by
  simp only [ensureSession, Work.bind_apply, Work.get_apply]
  cases under : line.session with
  | none => rfl
  | some session =>
    simp only [usable session under]
    rfl

/-- Taking a batch changes nothing. -/
theorem keeps_withBatch {τ : Type} {view : Line → τ} (command : Command) :
    Work.Keeps view (withBatch command) := by
  refine .bind .get fun line => ?_
  -- Without a payload the command goes out as it is.
  cases line.payload with
  | none => exact .pure _
  | some payload => exact .bind (keeps_check _) fun _ => .pure _

/-- A batch is taken beside the command, and nothing is changed. -/
theorem withBatch_ok {command batched : Command} {payload : Payload} {after : Line}
    (carried : line.payload = some payload)
    (done : withBatch command line = (.ok batched, after)) :
    ∃ batch, payload.nextBatch command.body line.connection.description = .ok batch ∧
      batched = { command with sequences := [batch] } := by
  unfold withBatch at done
  simp only [Work.bind_apply, Work.get_apply, carried] at done
  cases cut : payload.nextBatch command.body line.connection.description with
  | error cause =>
    rw [cut] at done
    cases done
  | ok batch =>
    rw [cut] at done
    cases done
    exact ⟨batch, rfl, rfl⟩

/-- Moving past a batch moves the payload past its documents. -/
theorem advancePayload_apply {command : Command} {batch : DocumentSequence}
    (beside : command.sequences = [batch]) (line : Line) :
    advancePayload command line
      = (.ok (), { line with payload := line.payload.map (·.advance batch.documents.length) }) := by
  simp [advancePayload, beside]

/-- What is read out of a response changes nothing but what is reported. -/
theorem keeps_replyDocument {τ : Type} {view : Line → τ}
    (quiet : ∀ line event, view (Line.emit line event) = view line) (address : Address)
    (response : Response) : Work.Keeps view (replyDocument address response) := by
  unfold replyDocument
  -- A reply in the old framing may tell of a failure, which is reported before the work ends.
  cases response with
  | message message => exact .pure _
  | reply reply =>
    dsimp only
    cases reply.documents with
    | nil => exact .throw _
    | cons document rest =>
      dsimp only
      split
      · exact .bind (keeps_check _) fun _ => .bind (fun _ => quiet _ _) fun _ => .throw _
      · exact .pure _

/-- Decoding keeps all of the line, whatever comes of it. -/
theorem keeps_decode {τ : Type} {view : Line → τ} (decoder : Decoder α) (document : RawDocument) :
    Work.Keeps view (decode decoder document) := by
  unfold decode
  cases decoder document with
  | error halt => exact .throw _
  | ok value => exact .pure _

end Exchange

namespace CommandCall

variable {α : Type} {call : CommandCall} {decoder : Decoder α} {line : Line}

/-- Whether the exchange of the command is completed: the request has gone out, and the response has
come if there is one. -/
def completes (call : CommandCall) (line : Line) : Bool :=
  match call.prepare line with
  | (.ok (_, request), line) => (send request call.context line).1.isOk
  | (.error _, _) => false

/-- Preparing a command changes nothing. -/
theorem keeps_prepare {τ : Type} {view : Line → τ} (call : CommandCall) :
    Work.Keeps view call.prepare :=
  .bind Exchange.keeps_ensureSession fun _ => .bind .get fun _ =>
    .bind (Exchange.keeps_check _) fun _ => .bind (Exchange.keeps_withBatch _) fun _ =>
      .bind (Exchange.keeps_check _) fun _ => .pure _

/-- A command that is prepared with a payload carries the next batch of it. -/
theorem prepare_ok {payload : Payload} {command : Command} {request : Request} {after : Line}
    (carried : line.payload = some payload)
    (prepared : call.prepare line = (.ok (command, request), after)) :
    ∃ body batch, payload.nextBatch body line.connection.description = .ok batch ∧
      command.sequences = [batch] ∧ request.Carries batch.identifier batch.documents := by
  -- Up to the batch, nothing has changed.
  obtain ⟨_, _, judged, afterSession⟩ := Work.bind_ok prepared
  obtain rfl := Work.Keeps.same Exchange.keeps_ensureSession judged
  obtain ⟨_, _, found, afterLook⟩ := Work.bind_ok afterSession
  cases found
  obtain ⟨command, _, stamped, afterStamp⟩ := Work.bind_ok afterLook
  obtain ⟨_, rfl⟩ := Exchange.check_eq_ok stamped
  obtain ⟨batched, _, beside, afterBatch⟩ := Work.bind_ok afterStamp
  obtain ⟨batch, cut, rfl⟩ := Exchange.withBatch_ok carried beside
  obtain ⟨_, _, framed, last⟩ := Work.bind_ok afterBatch
  cases last
  exact ⟨command.body, batch, cut, rfl,
    Command.carries_request (Exchange.check_eq_ok framed).1 rfl⟩

/-- What is done with a response leaves alone what neither the session, the payload nor the reports
have a part in. -/
theorem keeps_conclude {τ : Type} {view : Line → τ}
    (quiet : ∀ line event, view (Line.emit line event) = view line)
    (apart : ∀ line session, view { line with session } = view line)
    (moves : ∀ line payload, view { line with payload } = view line) (decoder : Decoder α)
    (command : Command) (response : Option Response) :
    Work.Keeps view (conclude decoder command response) := by
  refine .bind (fun _ => moves _ _) fun _ => ?_
  cases response with
  | none => exact .pure _
  | some response =>
    exact .bind .get fun _ => .bind (Exchange.keeps_replyDocument quiet _ _) fun _ =>
      .bind (fun _ => apart _ _) fun _ => .bind (Exchange.keeps_check _) fun _ =>
        .bind (Exchange.keeps_decode _ _) fun _ => .pure _

/-- What is done with a response changes the session and the reports alone, once the payload has
moved past the batch. -/
theorem view_conclude {τ : Type} (view : Line → τ) (decoder : Decoder α)
    (quiet : ∀ line event, view (Line.emit line event) = view line)
    (apart : ∀ line session, view { line with session } = view line) {command : Command}
    {batch : DocumentSequence} (beside : command.sequences = [batch]) (response : Option Response)
    (line : Line) :
    view (conclude decoder command response line).2
      = view { line with payload := line.payload.map (·.advance batch.documents.length) } := by
  unfold conclude
  -- The payload moves first, before anything is known about the response.
  rw [Work.bind_apply, Exchange.advancePayload_apply beside]
  cases response with
  | none => rfl
  | some response =>
    exact Work.Keeps.bind .get (fun _ => .bind (Exchange.keeps_replyDocument quiet _ _) fun _ =>
      .bind (fun _ => apart _ _) fun _ => .bind (Exchange.keeps_check _) fun _ =>
        .bind (Exchange.keeps_decode _ _) fun _ => .pure _) _

/-- A command whose exchange is not completed leaves the payload as it is. -/
theorem payload_run_incomplete (decoder : Decoder α)
    (incomplete : call.completes line = false) :
    (call.run decoder line).2.payload = line.payload := by
  simp only [run, Work.bind_apply]
  rcases prepared : call.prepare line with ⟨halt | ⟨command, request⟩, middle⟩
  · -- The command was rejected before anything was sent.
    rw [Work.Keeps.same (keeps_prepare call) prepared]
  · obtain rfl := Work.Keeps.same (keeps_prepare call) prepared
    have kept := payload_send request call.context middle
    dsimp only
    -- The exchange failed, as it is not completed.
    rcases sent : send request call.context middle with ⟨halt | response, last⟩
    · rw [sent] at kept
      exact kept
    · simp [completes, prepared, sent, Except.isOk, Except.toBool] at incomplete

/-- A command whose exchange is completed has sent one message, which carries the next batch of the
payload, and has moved the payload past it. -/
theorem run_complete {payload : Payload} (decoder : Decoder α)
    (carried : line.payload = some payload) (complete : call.completes line = true) :
    ∃ (body : Document) (batch : DocumentSequence) (request : Request) (id : Int32) (bytes : Bytes),
      payload.nextBatch body line.connection.description = .ok batch ∧
      request.Carries batch.identifier batch.documents ∧ request.encode id = .ok bytes ∧
      (call.run decoder line).2.network.sent
        = line.network.sent ++ [(line.connection.id.number, bytes)] ∧
      (call.run decoder line).2.payload = some (payload.advance batch.documents.length) := by
  simp only [run, Work.bind_apply]
  rcases prepared : call.prepare line with ⟨halt | ⟨command, request⟩, middle⟩
  · simp [completes, prepared] at complete
  · obtain ⟨body, batch, cut, beside, carries⟩ := prepare_ok carried prepared
    obtain rfl := Work.Keeps.same (keeps_prepare call) prepared
    have kept := payload_send request call.context middle
    dsimp only
    rcases sent : send request call.context middle with ⟨halt | response, last⟩
    · simp [completes, prepared, sent, Except.isOk, Except.toBool] at complete
    · -- Whatever becomes of the response, the message is out and the batch is behind.
      rw [sent] at kept
      obtain ⟨id, bytes, encoded, once⟩ := send_ok sent
      refine ⟨body, batch, request, id, bytes, cut, carries, encoded, ?_, ?_⟩
      · exact (view_conclude (·.network.sent) decoder (fun _ _ => rfl) (fun _ _ => rfl) beside
          response last).trans once
      · have unmoved : last.payload = some payload := kept.trans carried
        rw [view_conclude Line.payload decoder (fun _ _ => rfl) (fun _ _ => rfl) beside, unmoved]
        rfl

end CommandCall

end DocWire
