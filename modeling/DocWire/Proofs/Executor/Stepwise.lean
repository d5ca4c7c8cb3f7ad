import DocWire.Proofs.Command.Run
import DocWire.Proofs.Executor.Basic

/-! Work taken step by step: it waits for the channel before each message that it sends, and in
between it leaves the connection alone. All executors are such work. -/

namespace DocWire

/-- What work leaves alone while it sends nothing: the connection, and what was sent. -/
def Line.still (line : Line) : Connection × List (Nat × Bytes) :=
  (line.connection, line.network.sent)

/-- What is left of work: nothing, or to wait for the channel, send a request and go on with what
comes of it. -/
inductive Remainder (α : Type) where
  | ends (outcome : Except Halt α) (line : Line)
  | waits (sending : Sending) (line : Line)
    (next : Except Halt (Option Response) → Line → Remainder α)

namespace Remainder

variable {α β : Type}

/-- The end of work that always gets the channel at once and that nobody disturbs. -/
def finish : Remainder α → Except Halt α × Line
  | ends outcome line => (outcome, line)
  | waits sending line next => (next (carryOut sending line).1 (carryOut sending line).2).finish

/-- The rest of work that goes on with more. -/
def followed (next : Except Halt α → Line → Remainder β) : Remainder α → Remainder β
  | ends outcome line => next outcome line
  | waits sending line go => waits sending line fun result line => (go result line).followed next

/-- The rest of work leaves the connection alone, and sends nothing, except when it has its turn. -/
def Quiet : Remainder α → Line → Prop
  | ends _ line, before => line.still = before.still
  | waits _ line next, before =>
    line.still = before.still ∧ ∀ result later, (next result later).Quiet later

/-- Only the connection and what was sent count for what is left alone. -/
theorem Quiet.of_still {rest : Remainder α} {line before : Line} (quiet : rest.Quiet line)
    (same : line.still = before.still) : rest.Quiet before := by
  cases rest with
  | ends outcome after => exact quiet.trans same
  | waits sending after next => exact ⟨quiet.1.trans same, quiet.2⟩

/-- Work that goes on with more ends as that does. -/
theorem finish_followed (next : Except Halt α → Line → Remainder β) (rest : Remainder α) :
    (rest.followed next).finish = (next rest.finish.1 rest.finish.2).finish := by
  induction rest with
  | ends outcome line => rfl
  | waits sending line go ih => exact ih _ _

/-- Work that goes on with more leaves alone what both leave alone. -/
theorem quiet_followed {next : Except Halt α → Line → Remainder β}
    (after : ∀ outcome line, (next outcome line).Quiet line) {rest : Remainder α}
    {before : Line} (quiet : rest.Quiet before) : (rest.followed next).Quiet before := by
  induction rest generalizing before with
  | ends outcome line => exact (after outcome line).of_still quiet
  | waits sending line go ih => exact ⟨quiet.1, fun result later => ih _ _ (quiet.2 result later)⟩

end Remainder

/-- A way to take work step by step: undisturbed it comes to the same as the work, and between its
turns it leaves the connection alone. -/
structure Stepwise {α : Type} (work : Exchange α) where
  begin : Line → Remainder α
  finish : ∀ line, (begin line).finish = work line
  quiet : ∀ line, (begin line).Quiet line

namespace Stepwise

variable {α β : Type}

/-- Work that sends nothing is over at once. -/
def still {work : Exchange α} (kept : Work.Keeps Line.still work) : Stepwise work where
  begin line := .ends (work line).1 (work line).2
  finish _ := rfl
  quiet := kept

/-- Looking at the line. -/
def get : Stepwise (get : Exchange Line) := still .get

/-- A value alone. -/
def pure (value : α) : Stepwise (Pure.pure value : Exchange α) := still (.pure value)

/-- A check that may end the work. -/
def check (result : Except Cause α) : Stepwise (Exchange.check result) :=
  still (Exchange.keeps_check result)

/-- A failure. -/
def fail (cause : Cause) : Stepwise (Exchange.fail cause : Exchange α) := still (.throw _)

/-- A report. -/
def emit (event : Event) : Stepwise (Exchange.emit event) := still fun _ => rfl

/-- A request is registered, and then waits for the channel. -/
def send (request : Request) (context : Correlation) : Stepwise (DocWire.send request context) where
  begin line := match register request context line with
    | (.ok sending, line) => .waits sending line .ends
    | (.error halt, line) => .ends (.error halt) line
  finish line := by
    simp only [DocWire.send, Work.bind_apply]
    rcases register request context line with ⟨halt | sending, middle⟩ <;> rfl
  quiet line := by
    obtain ⟨network, same, sent⟩ := register_network line request context
    rcases registered : register request context line with ⟨halt | sending, middle⟩ <;>
      rw [registered] at same <;> obtain rfl : middle = { line with network } := same
    · exact congrArg (Prod.mk line.connection) sent
    -- What is done when the turn has come is not the work's own.
    · exact ⟨congrArg (Prod.mk line.connection) sent, fun _ _ => rfl⟩

/-- Work that goes on with a value, or halts. -/
def bind {work : Exchange α} {next : α → Exchange β} (first : Stepwise work)
    (second : ∀ value, Stepwise (next value)) : Stepwise (work >>= next) where
  begin line := (first.begin line).followed fun
    | .ok value => (second value).begin
    | .error halt => .ends (.error halt)
  finish line := by
    rw [Remainder.finish_followed, first.finish, Work.bind_apply]
    rcases work line with ⟨halt | value, middle⟩
    · rfl
    · exact (second value).finish middle
  quiet line := by
    refine Remainder.quiet_followed (fun outcome middle => ?_) (first.quiet line)
    cases outcome with
    | error halt => rfl
    | ok value => exact (second value).quiet middle

/-- Work whose end is looked at, whatever it is. -/
def after {work : Exchange α} {explained : Exchange β} (first : Stepwise work)
    (look : Except Halt α → Exchange β) (kept : ∀ outcome, Work.Keeps Line.still (look outcome))
    (same : ∀ line, explained line = look (work line).1 (work line).2) : Stepwise explained where
  begin line := (first.begin line).followed fun outcome line =>
    .ends (look outcome line).1 (look outcome line).2
  finish line := by
    rw [Remainder.finish_followed, first.finish, same]
    rfl
  quiet line := by
    refine Remainder.quiet_followed (fun outcome middle => ?_) (first.quiet line)
    exact kept outcome middle

/-- One of two works. -/
def choose {condition : Prop} [Decidable condition] {one other : Exchange α} (first : Stepwise one)
    (second : Stepwise other) : Stepwise (if condition then one else other) where
  begin line := if condition then first.begin line else second.begin line
  finish line := by
    split
    · exact first.finish line
    · exact second.finish line
  quiet line := by
    split
    · exact first.quiet line
    · exact second.quiet line

end Stepwise

section Replies

variable {α : Type} {decoder : Decoder α}

/-- What is read out of a response leaves the connection alone. -/
theorem still_replyDocument (address : Address) (response : Response) :
    Work.Keeps Line.still (replyDocument address response) :=
  Exchange.keeps_replyDocument (fun _ _ => rfl) address response

/-- So does the decoding of many documents. -/
theorem still_decodeAll (documents : List RawDocument) :
    Work.Keeps Line.still (Exchange.decodeAll decoder documents) := by
  induction documents with
  | nil => exact .pure _
  | cons document rest ih =>
    exact .bind (Exchange.keeps_decode _ _) fun _ => .bind ih fun _ => .pure _

theorem still_decodeElements (field : String) (broken : Bool) (elements : List RawElement) :
    Work.Keeps Line.still (decodeElements decoder field broken elements) := by
  induction elements with
  | nil =>
    unfold decodeElements
    split
    · exact .throw _
    · exact .pure _
  | cons element rest ih =>
    unfold decodeElements
    -- Only an element that is a document is decoded.
    split
    · exact .throw _
    · split
      · exact .throw _
      · exact .bind (Exchange.keeps_decode _ _) fun _ => .bind ih fun _ => .pure _

/-- A legacy reply may tell of a failure, which is reported and changes nothing else. -/
theorem still_classify (reply : Reply) (cursor : Int64) (address : Address) :
    Work.Keeps Line.still (classify reply decoder cursor address) := by
  unfold classify
  split
  · exact .throw _
  · split
    · split
      · exact .throw _
      · exact .bind (Exchange.keeps_check _) fun _ => .bind (fun _ => rfl) fun _ => .throw _
    · exact still_decodeAll _

theorem still_readBatch (reply : RawDocument) (field : String) (asked : Namespace)
    (address : Address) : Work.Keeps Line.still (readBatch reply field asked address decoder) :=
  .bind (Exchange.keeps_check _) fun _ => .bind (Exchange.keeps_check _) fun _ =>
    .bind (Exchange.keeps_check _) fun _ => .bind (still_decodeElements _ _ _) fun _ => .pure _

end Replies

section Executors

variable {α : Type}

/-- A command sends one message. -/
def CommandCall.stepwise (call : CommandCall) (decoder : Decoder α) :
    Stepwise (call.run decoder) :=
  .bind (.still call.keeps_prepare) fun (command, request) =>
    .bind (.send request call.context) fun response =>
      .still (CommandCall.keeps_conclude (fun _ _ => rfl) (fun _ _ => rfl) (fun _ _ => rfl)
        decoder command response)

/-- So does a command that is to be answered. -/
def stepwiseSendCommand (command : Command) (context : Correlation) :
    Stepwise (sendCommand command context) :=
  .bind .get fun _ => .bind (.check _) fun request => .bind (.send request context) fun
    | none => .fail _
    | some response => .bind (.still (still_replyDocument _ response)) fun _ =>
      .bind (.check _) fun _ => .pure _

namespace Write

/-- A write command sends one message. -/
def stepwiseCommand (write : Write) : Stepwise write.runCommand :=
  .bind .get fun _ => .bind (.check _) fun request => .bind (.send request write.context) fun
    | none => .pure _
    | some response => .bind (.still (still_replyDocument _ response)) fun _ => .check _

/-- The question for the outcome sends one message. -/
def stepwiseConfirm (write : Write) : Stepwise write.confirmLegacy :=
  .bind .get fun _ => .bind (.check _) fun request => .bind (.send request write.context) fun
    | none => .fail _
    | some response => .bind (.still (still_replyDocument _ response)) fun _ =>
      .bind (.check _) fun _ => .pure _

/-- A write in the old dialect sends one message, and the question after it if there is one. -/
def stepwiseLegacy (write : Write) : Stepwise write.runLegacy :=
  .bind (.bind (.check _) fun request => .bind (.send request write.context) fun _ => .pure _)
    fun _ => .choose write.stepwiseConfirm (.pure _)

/-- A write is judged before anything of it is sent. -/
def stepwise (write : Write) : Stepwise write.run :=
  .bind .get fun _ => .bind (.check _) fun _ => .bind (.check _) fun _ =>
    .choose write.stepwiseCommand write.stepwiseLegacy

end Write

/-- A query sends one message, in either dialect. -/
def Query.stepwise (query : Query) (decoder : Decoder α) : Stepwise (query.run decoder) :=
  .bind .get fun _ => .choose
    (.bind .get fun _ => .bind (stepwiseSendCommand query.command query.context) fun reply =>
      .still (still_readBatch reply _ _ _))
    (.bind .get fun _ => .bind (.check _) fun request =>
      .bind (.send request query.context) fun _ => .bind (.check _) fun reply =>
        .bind (.still (still_classify reply _ _)) fun _ => .pure _)

namespace GetMore

/-- To explain a failure is to leave everything else as it was. -/
def stepwiseExplaining {work : Exchange α} (cursor : ServerCursor) (first : Stepwise work) :
    Stepwise (explaining cursor work) :=
  first.after
    (fun
      | .ok value => pure value
      | .error halt => throw (explain cursor halt))
    (fun
      | .ok value => .pure value
      | .error halt => .throw _)
    fun line => by
      unfold explaining
      rcases work line with ⟨halt | value, after⟩ <;> rfl

/-- The request for the next batch is one message. -/
def stepwiseCommand (request : GetMore) (decoder : Decoder α) :
    Stepwise (request.runCommand decoder) :=
  .bind .get fun _ => .bind
    (stepwiseExplaining _ (stepwiseSendCommand request.command request.context)) fun reply =>
      .still (still_readBatch reply _ _ _)

/-- So it is in the old dialect. -/
def stepwiseLegacy (request : GetMore) (decoder : Decoder α) :
    Stepwise (request.runLegacy decoder) :=
  .bind .get fun _ => .bind (.send request.legacyRequest request.context) fun _ =>
    .bind (.check _) fun reply => .bind (.still (still_classify reply _ _)) fun _ => .pure _

/-- The beginning is told before the message, and the end after it. -/
def stepwise (request : GetMore) (decoder : Decoder α) : Stepwise (request.run decoder) :=
  .bind .get fun _ => .bind (.emit _) fun _ => .choose
    (.bind (request.stepwiseCommand decoder) fun _ => .bind (.emit _) fun _ => .pure _)
    (.bind (request.stepwiseLegacy decoder) fun _ => .bind (.emit _) fun _ => .pure _)

end GetMore

namespace KillCursors

/-- What a failure to give cursors up comes to. -/
def settle (request : KillCursors) : Except Halt RawDocument → Exchange Unit
  | .ok _ => pure ()
  | .error (.failed error) => fun line =>
    if error.cause.isNetwork || line.connection.closed then (.error (.failed error), line)
    else (.ok (), line.emit (.killFailed request.target request.cursors))
  | .error halt => throw halt

/-- The failure is told or reported, and nothing else. -/
theorem still_settle (request : KillCursors) (outcome : Except Halt RawDocument) :
    Work.Keeps Line.still (request.settle outcome) := by
  -- A failure may be passed over, by whether the connection is closed, but nothing is changed.
  rcases outcome with (error | _ | _) | reply
  · intro line
    unfold settle
    dsimp only
    split <;> rfl
  · exact .throw _
  · exact .throw _
  · exact .pure _

/-- To give cursors up is one message, in either dialect, and none for no cursors. -/
def stepwise (request : KillCursors) : Stepwise request.run :=
  .choose (.pure _) (.bind .get fun _ => .choose
    ((stepwiseSendCommand request.command request.context).after request.settle
      request.still_settle fun line => by
        unfold runCommand
        rcases sendCommand request.command request.context line with
          ⟨(error | _ | _) | reply, after⟩ <;> rfl)
    (.bind (.send request.legacyRequest request.context) fun _ => .pure _))

end KillCursors

/-- Every executor can be taken step by step. -/
def Executor.stepwise : (executor : Executor α) → Stepwise executor.run
  | write made => made.stepwise
  | command _ call decoder => .bind (.check _) fun _ => call.stepwise decoder
  | query asked decoder => asked.stepwise decoder
  | getMore request decoder => request.stepwise decoder
  | killCursors request => request.stepwise

end Executors

end DocWire
