import DocWire.Proofs.Command.Run
import DocWire.Proofs.Connection.Standing
import DocWire.Proofs.Executor.Basic
import DocWire.Proofs.Wire.Blame

/-! Refusals of what the caller asked for: which of them leave no trace. Everything is judged before
the first message goes out, but a legacy write sends two messages, and the second is judged when the
first is on its way. -/

namespace DocWire

/-- What others can tell of a line: the messages that went out, and whether the connection is
closed. -/
def Line.outward (line : Line) : List (Nat × Bytes) × Bool :=
  (line.network.sent, line.connection.closed)

namespace Exchange

variable {α β : Type}

/-- Work that refuses what the caller asked for in no other ways than its own. -/
def Excused (own : Halt → Prop) (work : Exchange α) : Prop :=
  ∀ line halt after, work line = (.error halt, after) → halt.blames = true → own halt

/-- Work whose refusals of what the caller asked for leave no trace, unless they are its own. -/
def Harmless (own : Halt → Prop) (work : Exchange α) : Prop :=
  ∀ line halt after, work line = (.error halt, after) → halt.blames = true → ¬ own halt →
    after.outward = line.outward

namespace Excused

variable {own : Halt → Prop}

theorem pure (value : α) : Excused own (Pure.pure value : Exchange α) := by
  rintro line halt after ⟨⟩

theorem get : Excused own (get : Exchange Line) := by
  rintro line halt after ⟨⟩

theorem modify (change : Line → Line) : Excused own (modify change : Exchange PUnit) := by
  rintro line halt after ⟨⟩

theorem fail {cause : Cause} (innocent : cause.blames = false) :
    Excused own (fail cause : Exchange α) := by
  rintro line halt after ⟨⟩ blames
  -- The halt tells the cause, which refuses nothing.
  rw [show (Halt.ofCause cause).blames = cause.blames from rfl, innocent] at blames
  cases blames

theorem check {result : Except Cause α} (blameless : Blameless result) :
    Excused own (check result) := by
  cases result with
  | ok value => exact .pure value
  | error cause => exact .fail (blameless cause rfl)

/-- Work in two parts refuses nothing when neither part does. -/
theorem bind {work : Exchange α} {next : α → Exchange β} (one : Excused own work)
    (two : ∀ value, Excused own (next value)) : Excused own (work >>= next) := by
  intro line halt after ended blames
  -- A halt in the first part is the end of the whole, and else it comes from the second.
  rw [Work.bind_apply] at ended
  rcases begun : work line with ⟨_ | value, middle⟩
  · rw [begun] at ended
    cases ended
    exact one line halt _ begun blames
  · rw [begun] at ended
    exact two value middle halt after ended blames

end Excused

namespace Harmless

variable {own : Halt → Prop}

/-- Work that refuses nothing does no harm by it. -/
theorem of_excused {work : Exchange α} (excused : Excused own work) : Harmless own work := by
  intro line halt after ended blames other
  exact absurd (excused line halt after ended blames) other

/-- Work that leaves no trace does no harm. -/
theorem of_keeps {work : Exchange α} (kept : Work.Keeps Line.outward work) :
    Harmless own work := by
  intro line halt after ended _ _
  have same := kept line
  rwa [ended] at same

/-- Where no refusal is allowed for, none leaves a trace. -/
theorem outward {work : Exchange α} {line after : Line} {halt : Halt}
    (harmless : Harmless (fun _ => False) work) (ended : work line = (.error halt, after))
    (blames : halt.blames = true) : after.outward = line.outward :=
  harmless line halt after ended blames id

/-- What leaves no trace may come first. -/
theorem keeps_bind {work : Exchange α} {next : α → Exchange β}
    (one : Work.Keeps Line.outward work) (two : ∀ value, Harmless own (next value)) :
    Harmless own (work >>= next) := by
  intro line halt after ended blames other
  have same := one line
  rw [Work.bind_apply] at ended
  rcases begun : work line with ⟨_ | value, middle⟩ <;> rw [begun] at ended same
  · cases ended
    exact same
  · exact (two value middle halt after ended blames other).trans same

/-- What refuses nothing may come last, whatever traces were left before. -/
theorem bind_excused {work : Exchange α} {next : α → Exchange β} (one : Harmless own work)
    (two : ∀ value, Excused own (next value)) : Harmless own (work >>= next) := by
  intro line halt after ended blames other
  rw [Work.bind_apply] at ended
  rcases begun : work line with ⟨_ | value, middle⟩
  · rw [begun] at ended
    cases ended
    exact one line halt _ begun blames other
  · -- A refusal from the second part would be one of its own.
    rw [begun] at ended
    exact absurd (two value middle halt after ended blames) other

end Harmless

end Exchange

open Exchange (Excused Harmless)

section Replies

variable {α : Type} {own : Halt → Prop}

/-- A failure that the server flagged is the server's. -/
theorem excused_flaggedFailure (address : Address) (document : RawDocument) :
    Excused own (flaggedFailure address document : Exchange α) :=
  .bind (.check (blameless_decode document)) fun _ => .bind (.modify _) fun _ => .fail rfl

/-- A response without a document to read is the server's fault. -/
theorem excused_replyDocument (address : Address) (response : Response) :
    Excused own (replyDocument address response) := by
  cases response with
  | message message => exact .pure _
  | reply reply =>
    -- Either there is no document, or it is told as a failure, or it is read.
    unfold replyDocument
    dsimp only
    split
    · exact .fail rfl
    · split
      · exact excused_flaggedFailure address _
      · exact .pure _

variable {decoder : Decoder α}

/-- A decoder refuses in its own ways alone. -/
theorem excused_decode (document : RawDocument) :
    Excused decoder.Gives (Exchange.decode decoder document) := by
  intro line halt after ended _
  unfold Exchange.decode at ended
  -- The document that is decoded shows the decoder to give that end.
  refine ⟨document, ?_⟩
  cases decoded : decoder document with
  | ok value =>
    rw [decoded] at ended
    cases ended
  | error other =>
    rw [decoded] at ended
    cases ended
    rfl

theorem excused_decodeAll (documents : List RawDocument) :
    Excused decoder.Gives (Exchange.decodeAll decoder documents) := by
  induction documents with
  | nil => exact .pure _
  | cons document rest ih =>
    exact .bind (excused_decode document) fun _ => .bind ih fun _ => .pure _

theorem excused_decodeElements (field : String) (broken : Bool) (elements : List RawElement) :
    Excused decoder.Gives (decodeElements decoder field broken elements) := by
  -- An element of another kind is the server's fault, and so are bytes that cannot be read.
  induction elements with
  | nil =>
    unfold decodeElements
    split
    · exact .fail rfl
    · exact .pure _
  | cons element rest ih =>
    unfold decodeElements
    split
    · exact .fail rfl
    · split
      · exact .fail rfl
      · exact .bind (excused_decode _) fun _ => .bind ih fun _ => .pure _

/-- What a legacy reply comes to is the server's affair and the decoder's. -/
theorem excused_classify (reply : Reply) (cursor : Int64) (address : Address) :
    Excused decoder.Gives (classify reply decoder cursor address) := by
  -- Both flags are told as what the server reports, and only then is anything decoded.
  unfold classify
  split
  · exact .fail rfl
  · split
    · split
      · exact .fail rfl
      · exact excused_flaggedFailure address _
    · exact excused_decodeAll _

/-- What the batch in a reply comes to is the server's affair and the decoder's. -/
theorem excused_readBatch (reply : RawDocument) (field : String) (asked : Namespace)
    (address : Address) : Excused decoder.Gives (readBatch reply field asked address decoder) :=
  .bind (.check (blameless_requireField _ _ _)) fun _ =>
    .bind (.check (blameless_cursorNumber _)) fun _ =>
      .bind (.check (blameless_requireField _ _ _)) fun _ =>
        .bind (excused_decodeElements _ _ _) fun _ => .pure _

/-- What is made of a response to a command is the server's affair and the decoder's. -/
theorem excused_conclude (command : Command) (response : Option Response) :
    Excused decoder.Gives (CommandCall.conclude decoder command response) := by
  -- The payload is moved on first, which cannot fail.
  refine .bind (.modify _) fun _ => ?_
  cases response with
  | none => exact .pure _
  | some response =>
    exact .bind .get fun _ => .bind (excused_replyDocument _ response) fun _ =>
      .bind (.modify _) fun _ => .bind (.check (blameless_ensureSuccess _)) fun _ =>
        .bind (excused_decode _) fun _ => .pure _

end Replies

section Sending

variable {own : Halt → Prop}

/-- A request that is refused has not gone out. -/
theorem harmless_send (request : Request) (context : Correlation) :
    Harmless own (send request context) := by
  refine .bind_excused (.of_keeps fun line => ?_) fun sending => ?_
  · -- All that is judged is judged before the request has its id for good.
    obtain ⟨network, same, quiet⟩ := register_network line request context
    rw [same]
    exact congrArg (·, line.connection.closed) quiet
  · -- From here on the server and the stream alone can fail.
    intro line halt after ended blames
    rw [blames_carryOut ended] at blames
    cases blames

/-- An exchange that is completed leaves the connection as open as it was. -/
theorem closed_completed {line after : Line} {sending : Sending} {response : Option Response}
    (done : carryOut sending line = (.ok response, after)) :
    after.connection.closed = line.connection.closed := by
  cases found : line.connection.channel with
  | none =>
    rw [carryOut_none found] at done
    cases done
  | some channel =>
    rw [carryOut_some found] at done
    -- Only an ending that completes the exchange comes to a response, and it sets no flag.
    obtain ⟨⟨time, rest, completed⟩, -⟩ := Line.settle_ok _ done
    have kept := Line.closed_settle (line.start sending channel).1 sending
      (line.start sending channel).2
    rw [done, completed] at kept
    exact kept.trans (line.closed_start sending channel)

/-- A request that was answered, or needs no answer, went out once and left the connection as open
as it was. -/
theorem outward_send {line after : Line} {request : Request} {context : Correlation}
    {response : Option Response} (done : send request context line = (.ok response, after)) :
    ∃ id bytes, request.encode id = .ok bytes ∧
      after.outward = (line.network.sent ++ [(line.connection.id.number, bytes)],
        line.connection.closed) := by
  obtain ⟨id, bytes, encoded, sent⟩ := send_ok done
  refine ⟨id, bytes, encoded, ?_⟩
  obtain ⟨sending, middle, registered, carried⟩ := Work.bind_ok done
  obtain ⟨network, same, -⟩ := register_network line request context
  rw [registered] at same
  cases same
  -- Before the bytes go out, only the network has changed.
  have opened : after.connection.closed = line.connection.closed := (closed_completed carried :)
  rw [Line.outward, sent, opened]

/-- A command that is refused has not gone out. -/
theorem harmless_sendCommand (command : Command) (context : Correlation) :
    Harmless own (sendCommand command context) := by
  -- Framing comes before sending, and what comes after is about the reply.
  refine .keeps_bind .get fun line => .keeps_bind (Exchange.keeps_check _) fun request =>
    .bind_excused (harmless_send request context) fun response => ?_
  cases response with
  | none => exact .fail rfl
  | some response =>
    exact .bind (excused_replyDocument _ response) fun _ =>
      .bind (.check (blameless_ensureSuccess _)) fun _ => .pure _

end Sending

section Dialects

variable {α : Type} {decoder : Decoder α} {own : Halt → Prop}

/-- A command that is refused has not gone out, with or without a payload. -/
theorem CommandCall.harmless_run (call : CommandCall) :
    Harmless decoder.Gives (call.run decoder) :=
  .keeps_bind call.keeps_prepare fun (command, request) =>
    .bind_excused (harmless_send request call.context) fun _ => excused_conclude command _

/-- A query that is refused has not gone out, in either dialect. -/
theorem Query.harmless_run (query : Query) : Harmless decoder.Gives (query.run decoder) := by
  -- In both dialects the one request comes before anything that is read.
  refine .keeps_bind .get fun line => ?_
  split
  · exact .keeps_bind .get fun _ => .bind_excused (harmless_sendCommand _ _) fun _ =>
      excused_readBatch _ _ _ _
  · exact .keeps_bind .get fun _ => .keeps_bind (Exchange.keeps_check _) fun request =>
      .bind_excused (harmless_send request _) fun _ =>
        .bind (.check (blameless_expectReply _)) fun _ =>
          .bind (excused_classify _ _ _) fun _ => .pure _

/-- Only a failure that the server reports is explained as something else. -/
theorem GetMore.explain_blames {cursor : ServerCursor} {halt : Halt}
    (blames : (explain cursor halt).blames = true) : explain cursor halt = halt := by
  cases halt with
  | failed error =>
    unfold explain at blames ⊢
    dsimp only at blames ⊢
    split at blames
    · -- A cursor that is gone is no refusal of what was asked for.
      cases blames
    · rename_i other
      exact if_neg other
  | panicked => rfl
  | dropped => rfl

/-- To explain a failure does no harm. -/
theorem GetMore.harmless_explaining {cursor : ServerCursor} {work : Exchange α}
    (harmless : Harmless own work) : Harmless own (explaining cursor work) := by
  intro line halt after ended blames other
  unfold explaining at ended
  rcases begun : work line with ⟨first | value, middle⟩
  · rw [begun] at ended
    cases ended
    -- The refusal is the one that the work itself ended with.
    have same := explain_blames blames
    rw [same] at other blames
    exact harmless line first _ begun blames other
  · rw [begun] at ended
    cases ended

/-- A request for the next batch that is refused has not gone out, in either dialect. -/
theorem GetMore.harmless_run (request : GetMore) :
    Harmless decoder.Gives (request.run decoder) := by
  have command : Harmless decoder.Gives (request.runCommand decoder) :=
    .keeps_bind .get fun _ =>
      .bind_excused (harmless_explaining (harmless_sendCommand _ _)) fun _ =>
        excused_readBatch _ _ _ _
  have legacy : Harmless decoder.Gives (request.runLegacy decoder) :=
    .keeps_bind .get fun _ => .bind_excused (harmless_send _ _) fun _ =>
      .bind (.check (blameless_expectReply _)) fun _ =>
        .bind (excused_classify _ _ _) fun _ => .pure _
  -- The events before and after the request are nothing to the server.
  refine .keeps_bind .get fun line => .keeps_bind (fun _ => rfl) fun _ => ?_
  dsimp only
  split
  · exact .bind_excused command fun _ => .bind (.modify _) fun _ => .pure _
  · exact .bind_excused legacy fun _ => .bind (.modify _) fun _ => .pure _

/-- A request to give cursors up that is refused has not gone out, in either dialect. -/
theorem KillCursors.harmless_run (request : KillCursors) : Harmless own request.run := by
  unfold run
  split
  · -- Nothing is sent for no cursors.
    exact .of_excused (.pure ())
  · refine .keeps_bind .get fun line => ?_
    split
    · -- What the server makes of the command is told as an event, not as an end.
      intro line halt after ended blames other
      unfold runCommand at ended
      split at ended
      · cases ended
      · rename_i error middle sent
        split at ended
        · cases ended
          exact harmless_sendCommand _ _ line _ _ sent blames other
        · cases ended
      · rename_i first middle unfailed sent
        cases ended
        exact harmless_sendCommand _ _ line _ _ sent blames other
    · exact .bind_excused (harmless_send _ _) fun _ => .pure _

end Dialects

namespace Write

variable {write : Write} {line after : Line} {halt : Halt}

/-- Whether the write gets as far as asking how its legacy request went, which has gone out then. -/
def confirms (write : Write) (line : Line) : Bool :=
  (write.judge line.connection.description).isOk &&
    !line.connection.description.hasWriteCommands && write.concern.isAcknowledged &&
    (write.sendLegacy line).1.isOk

/-- A write that is refused as a command has not gone out. -/
theorem harmless_runCommand {own : Halt → Prop} : Harmless own write.runCommand := by
  refine .keeps_bind .get fun line => .keeps_bind (Exchange.keeps_check _) fun request =>
    .bind_excused (harmless_send request _) fun response => ?_
  cases response with
  | none => exact .pure _
  | some response =>
    exact .bind (excused_replyDocument _ response) fun _ =>
      .check (blameless_writeResult _ _)

/-- A legacy request that is refused has not gone out. -/
theorem harmless_sendLegacy {own : Halt → Prop} : Harmless own write.sendLegacy :=
  .keeps_bind (Exchange.keeps_check _) fun request =>
    .bind_excused (harmless_send request _) fun _ => .pure _

/-- A question for the outcome that is refused has not gone out. -/
theorem harmless_confirmLegacy {own : Halt → Prop} : Harmless own write.confirmLegacy := by
  refine .keeps_bind .get fun line => .keeps_bind (Exchange.keeps_check _) fun request =>
    .bind_excused (harmless_send request _) fun response => ?_
  cases response with
  | none => exact .fail rfl
  | some response =>
    exact .bind (excused_replyDocument _ response) fun _ =>
      .bind (.check (blameless_lastErrorResult _)) fun _ => .pure _

/-- A legacy request that went out did so once, and left the connection as open as it was. -/
theorem outward_sendLegacy (done : write.sendLegacy line = (.ok (), after)) :
    ∃ request id bytes, write.legacyRequest = .ok request ∧ request.encode id = .ok bytes ∧
      after.outward = (line.network.sent ++ [(line.connection.id.number, bytes)],
        line.connection.closed) := by
  -- The steps of the work, in order: framing, sending, and nothing with what comes back.
  obtain ⟨request, _, framed, sent⟩ := Work.bind_ok done
  obtain ⟨spelled, rfl⟩ := Exchange.check_eq_ok framed
  obtain ⟨response, middle, sent, last⟩ := Work.bind_ok sent
  cases last
  obtain ⟨id, bytes, encoded, outward⟩ := outward_send sent
  exact ⟨request, id, bytes, spelled, encoded, outward⟩

/-- A write that gets that far has sent its legacy request, and nothing but the question is left. -/
theorem run_confirms (late : write.confirms line = true) :
    ∃ middle, write.sendLegacy line = (.ok (), middle) ∧
      write.run line = write.confirmLegacy middle := by
  simp only [confirms, Bool.and_eq_true, Bool.not_eq_true'] at late
  -- Each condition takes one branch of the run.
  obtain ⟨⟨⟨judged, legacy⟩, acknowledged⟩, posted⟩ := late
  rw [run_apply]
  cases verdict : write.judge line.connection.description with
  | error cause =>
    rw [verdict] at judged
    cases judged
  | ok _ =>
    rcases sent : write.sendLegacy line with ⟨halt | value, middle⟩
    · rw [sent] at posted
      cases posted
    · refine ⟨middle, rfl, ?_⟩
      simp [legacy, runLegacy, sent, acknowledged]

/-- A write that is refused earlier leaves no trace. -/
theorem outward_refused (ended : write.run line = (.error halt, after))
    (blames : halt.blames = true) (early : write.confirms line = false) :
    after.outward = line.outward := by
  rw [run_apply] at ended
  cases judged : write.judge line.connection.description with
  | error cause =>
    rw [judged] at ended
    cases ended
    rfl
  | ok _ =>
    simp only [judged] at ended
    split at ended
    · exact harmless_runCommand.outward ended blames
    · rename_i legacy
      unfold runLegacy at ended
      rw [Work.bind_apply] at ended
      rcases sent : write.sendLegacy line with ⟨first | value, middle⟩
      · rw [sent] at ended
        cases ended
        exact harmless_sendLegacy.outward sent blames
      · -- A request that went out is asked about, or nobody is to hear of it at all.
        rw [sent] at ended
        dsimp only at ended
        split at ended
        · rename_i acknowledged
          simp [confirms, judged, legacy, acknowledged, sent, Except.isOk, Except.toBool] at early
        · cases ended

/-- A write that is refused when it asks for the outcome has sent its legacy request once. -/
theorem outward_refused_late (ended : write.run line = (.error halt, after))
    (blames : halt.blames = true) (late : write.confirms line = true) :
    ∃ request id bytes, write.legacyRequest = .ok request ∧ request.encode id = .ok bytes ∧
      after.outward = (line.network.sent ++ [(line.connection.id.number, bytes)],
        line.connection.closed) := by
  obtain ⟨middle, sent, rest⟩ := run_confirms late
  rw [rest] at ended
  obtain ⟨request, id, bytes, framed, encoded, outward⟩ := outward_sendLegacy sent
  -- The question came too late to undo what had gone out before it.
  exact ⟨request, id, bytes, framed, encoded,
    (harmless_confirmLegacy.outward ended blames).trans outward⟩

end Write

namespace Executor

variable {α : Type}

/-- Whether the operation gets as far as asking how a legacy write went. -/
def confirms (executor : Executor α) (line : Line) : Bool :=
  match executor with
  | write made => made.confirms line
  | _ => false

/-- The bytes are those of the legacy write that the operation is. -/
def Spells (executor : Executor α) (bytes : Bytes) : Prop :=
  match executor with
  | write made => ∃ request id, made.legacyRequest = .ok request ∧ request.encode id = .ok bytes
  | _ => False

/-- An operation that is refused leaves no trace, unless it got as far as asking how a legacy write
went. -/
theorem harmless_run {executor : Executor α} {line after : Line} {halt : Halt}
    (ended : executor.run line = (.error halt, after)) (blames : halt.blames = true)
    (other : ¬ executor.Decodes halt) (early : executor.confirms line = false) :
    after.outward = line.outward := by
  -- Only a write may ask how it went; of the others, each sends one message.
  cases executor with
  | write made => exact Write.outward_refused ended blames early
  | command rule call decoder =>
    have harmless : Harmless decoder.Gives (run (.command rule call decoder)) :=
      .keeps_bind (Exchange.keeps_check _) fun _ => call.harmless_run
    exact harmless line halt after ended blames other
  | query asked decoder => exact asked.harmless_run line halt after ended blames other
  | getMore request decoder => exact request.harmless_run line halt after ended blames other
  | killCursors request => exact request.harmless_run.outward ended blames

/-- When an operation ends because what the caller asked for was refused, and not by its decoder,
the connection is as open as it was, unless it was to be closed; and no message has gone out, except
that the request of a legacy write has, once, when it was the question for its outcome that was
refused. -/
theorem unsent_iff_of_refused (executor : Executor α) (closes : Bool) (line after : Line)
    (halt : Halt) (ended : closingAfter closes executor.run line = (.error halt, after))
    (blames : halt.blames = true) (other : ¬ executor.Decodes halt) :
    (closes = false → after.connection.closed = line.connection.closed) ∧
    (after.network.sent = line.network.sent ↔ executor.confirms line = false) ∧
    (executor.confirms line = true → ∃ bytes, executor.Spells bytes ∧
      after.network.sent = line.network.sent ++ [(line.connection.id.number, bytes)]) := by
  rcases begun : executor.run line with ⟨result, middle⟩
  have same : result = .error halt ∧ after = if closes then middle.close .asked else middle := by
    unfold closingAfter at ended
    rw [begun] at ended
    cases ended
    exact ⟨rfl, rfl⟩
  obtain ⟨rfl, rfl⟩ := same
  -- To close the connection afterwards sends nothing.
  have sent : (if closes then middle.close .asked else middle).network.sent
      = middle.network.sent := by
    cases closes with
    | true => exact middle.sent_close .asked
    | false => rfl
  rw [sent]
  cases late : executor.confirms line with
  | false =>
    have quiet := harmless_run begun blames other late
    have unsent : middle.network.sent = line.network.sent := congrArg Prod.fst quiet
    refine ⟨?_, ⟨fun _ => rfl, fun _ => unsent⟩, fun asked => by cases asked⟩
    rintro rfl
    exact congrArg Prod.snd quiet
  | true =>
    -- No other operation than a write gets here.
    obtain ⟨bytes, spells, outward⟩ : ∃ bytes, executor.Spells bytes ∧
        middle.outward = (line.network.sent ++ [(line.connection.id.number, bytes)],
          line.connection.closed) := by
      cases executor with
      | write made =>
        obtain ⟨request, id, bytes, framed, encoded, outward⟩ :=
          Write.outward_refused_late begun blames late
        exact ⟨bytes, ⟨request, id, framed, encoded⟩, outward⟩
      | _ => cases late
    have posted : middle.network.sent = line.network.sent ++ [_] := congrArg Prod.fst outward
    refine ⟨?_, ?_, fun _ => ⟨bytes, spells, posted⟩⟩
    · rintro rfl
      exact congrArg Prod.snd outward
    · simp [posted]

/-- A server that takes messages of up to fifty bytes gets the insertion, but the question for its
outcome is refused. -/
theorem unsent_iff_of_refused_question :
    let address : Address := default
    let description : ConnectionDescription := { address, wireVersion := 1, messageLimit := 50 }
    let line : Line := { connection := .fresh ⟨address, 1⟩ description {}, network := {} }
    let insertion : Write := { target := ⟨"db", "c"⟩, statement := .insert [("_id", .int32 0)] }
    ∃ halt after, closingAfter false (run (.write insertion)) line = (.error halt, after) ∧
      halt.blames = true ∧ after.connection.closed = false ∧
      after.network.sent ≠ line.network.sent := by
  intro address description line insertion
  have late : confirms (.write insertion) line = true := by decide +kernel
  have refused : (match (closingAfter false (run (.write insertion)) line).1 with
      | .error halt => halt.blames
      | .ok _ => false) = true := by decide +kernel
  rcases ended : closingAfter false (run (.write insertion)) line with ⟨halt | result, after⟩ <;>
    rw [ended] at refused
  · -- Had nothing been sent, the write would not have got to the question.
    obtain ⟨opened, unsent, -⟩ :=
      unsent_iff_of_refused (.write insertion) false line after halt ended refused id
    refine ⟨halt, after, rfl, refused, opened rfl, fun same => ?_⟩
    rw [unsent.mp same] at late
    cases late
  · cases refused

end Executor

end DocWire
