import DocWire.Cursor.GetMore
import DocWire.Cursor.Kill
import DocWire.Proofs.Connection.Exchange
import DocWire.Write.Basic

/-! Executors: every operation that runs over one connection, by what comes of it. -/

namespace DocWire

/-- One operation over a connection. -/
inductive Executor : Type → Type 1 where
  | write (write : Write) : Executor WriteResult
  | command {α : Type} (rule : NameRule) (call : CommandCall) (decoder : Decoder α) :
    Executor (Option α)
  | query {α : Type} (query : Query) (decoder : Decoder α) : Executor (Batch α)
  | getMore {α : Type} (request : GetMore) (decoder : Decoder α) : Executor (Batch α)
  | killCursors (request : KillCursors) : Executor Unit

/-- The ends without an answer that a decoder brings about. -/
def Decoder.Gives {α : Type} (decoder : Decoder α) (halt : Halt) : Prop :=
  ∃ document, decoder document = .error halt

namespace Executor

variable {α : Type}

/-- Runs the operation. -/
def run : Executor α → Exchange α
  | write made => made.run
  | command rule call decoder => do
    -- A payload, if there is one, lies on the line.
    Exchange.check (checkNames rule call.command)
    call.run decoder
  | query asked decoder => asked.run decoder
  | getMore request decoder => request.run decoder
  | killCursors request => request.run

/-- The ends without an answer that are the decoder's, if there is one. -/
def Decodes : Executor α → Halt → Prop
  | command _ _ decoder | query _ decoder | getMore _ decoder => decoder.Gives
  | write _ | killCursors _ => fun _ => False

end Executor

namespace Write

/-- What is judged before anything of a write is sent: the statement, and then the concern. -/
def judge (write : Write) (description : ConnectionDescription) : Except Cause Unit := do
  write.statement.check description
  write.concern.validate.mapError .argument

/-- A write that is judged well is run in the dialect of the server, and any other ends at once. -/
theorem run_apply (write : Write) (line : Line) :
    write.run line = match write.judge line.connection.description with
      | .error cause => (.error (.ofCause cause), line)
      | .ok _ => if line.connection.description.hasWriteCommands then write.runCommand line
        else write.runLegacy line := by
  simp only [run, judge, Work.bind_apply, Work.get_apply]
  cases write.statement.check line.connection.description with
  | error cause => rfl
  | ok _ =>
    cases write.concern.validate with
    | error fault => rfl
    | ok _ =>
      -- Only the dialect is left to choose.
      show (if _ then _ else _ : Exchange WriteResult) line = if _ then _ else _
      split <;> rfl

/-- The legacy request of a write: each statement has one of its own, with the documents in their
raw form, and all of them bear the target of the write. -/
inductive LegacyForm (write : Write) : Request → Prop where
  | insert {document : Document} {raw : RawDocument}
    (statement : write.statement = .insert document) (encoded : document.encode = .ok raw) :
    LegacyForm write (.insert
      { continueOnError := !write.ordered, target := write.target, documents := [raw] })
  | update {filter change : Document} {upsert multi : Bool} {kind : UpdateKind}
    {selector update : RawDocument}
    (statement : write.statement = .update filter change upsert multi kind)
    (chosen : filter.encode = .ok selector) (made : change.encode = .ok update) :
    LegacyForm write (.update
      { target := write.target, flags := { upsert, multi }, selector, update })
  | delete {filter : Document} {multi : Bool} {selector : RawDocument}
    (statement : write.statement = .delete filter multi) (chosen : filter.encode = .ok selector) :
    LegacyForm write (.delete { target := write.target, singleRemove := !multi, selector })

/-- A legacy request that was framed has the form for its statement. -/
theorem legacyForm_of_framed {write : Write} {request : Request}
    (framed : write.legacyRequest = .ok request) : write.LegacyForm request := by
  unfold legacyRequest at framed
  cases statement : write.statement with
  | insert document =>
    rw [statement] at framed
    obtain ⟨raw, encoded, framed⟩ := Work.except_bind_ok framed
    cases framed
    exact .insert statement encoded
  | update filter change upsert multi kind =>
    rw [statement] at framed
    obtain ⟨selector, chosen, framed⟩ := Work.except_bind_ok framed
    obtain ⟨update, made, framed⟩ := Work.except_bind_ok framed
    cases framed
    exact .update statement chosen made
  | delete filter multi =>
    rw [statement] at framed
    obtain ⟨selector, chosen, framed⟩ := Work.except_bind_ok framed
    cases framed
    exact .delete statement chosen

end Write

end DocWire
