import DocWire.Proofs.Document.Names
import DocWire.Proofs.Document.Size
import DocWire.Proofs.Write.Mandate

/-! Updates as a server reads them. What tells an update by operators from a replacement is the
first name in its document; what is judged before it goes out is each of its names. A document
without names passes for operators, and is read as a replacement. -/

namespace DocWire

section FirstNames

/-- The name of the first field, as it stands in the bytes; where there is no field, the final zero
stands in place of a tag. -/
def RawDocument.firstName? (document : RawDocument) : Option String :=
  match document.elements with
  | [] => none
  | tag :: rest => if tag = 0 then none else (readName? rest).map (·.1)

/-- What a server takes the document of an update for. -/
def RawDocument.updateKind (document : RawDocument) : UpdateKind :=
  if document.firstName?.any NameRule.isOperator then .operators else .replacement

variable {document : Document} {raw : RawDocument}

/-- The first name in the bytes is that of the first field. -/
theorem Document.firstName?_encode (encoded : document.encode = .ok raw) :
    raw.firstName? = document.firstKey? := by
  obtain ⟨bytes, written, rfl⟩ := Document.encode_eq_ok.mp encoded
  have run : RawDocument.elements ⟨enclosed bytes⟩ = bytes ++ [0] := drop_enclosed bytes
  cases document with
  | nil =>
    -- Without fields there is only the final zero.
    cases written
    rfl
  | cons field rest =>
    obtain ⟨name, value⟩ := field
    obtain ⟨clean, payload, others, -, -, rfl⟩ := encodeFields?_cons.mp written
    have joined : value.kind.tag :: (Bytes.ofString name ++ [0] ++ payload ++ others) ++ [0]
        = value.kind.tag :: (Bytes.ofString name ++ 0 :: (payload ++ others ++ [0])) := by
      simp
    rw [RawDocument.firstName?, run, joined]
    dsimp only
    rw [if_neg value.kind.tag_ne_zero, readName?_ofString clean]
    rfl

/-- A document is taken for operators when it has a first name, and this is the name of one. -/
theorem RawDocument.updateKind_encode (encoded : document.encode = .ok raw) :
    raw.updateKind = .operators ↔
      ∃ name, document.firstKey? = some name ∧ ['$'] <+: name.toList := by
  rw [updateKind, Document.firstName?_encode encoded]
  -- The server looks at the first name, and at no other.
  cases document.firstKey? with
  | none => simp
  | some name =>
    simp only [Option.any_some, Option.some.injEq, exists_eq_left', ← NameRule.isOperator_iff]
    by_cases operator : NameRule.isOperator name = true
    · simp [operator]
    · simp [operator]

end FirstNames

section Judging

variable {filter change : Document} {upsert multi : Bool} {description : ConnectionDescription}
  {raw : RawDocument}

/-- An update by operators has passed when all its names are names of operators. -/
theorem Statement.check_operators :
    (Statement.update filter change upsert multi .operators).check description = .ok () ↔
      ∀ name ∈ change.names, ['$'] <+: name.toList :=
  (checkNames_outcome change).2.1

/-- No name of a replacement that has passed is the name of an operator. -/
theorem Statement.names_of_replacement
    (checked : (Statement.update filter change upsert multi .replacement).check description
      = .ok ()) : ∀ name ∈ change.names, ¬ ['$'] <+: name.toList := by
  obtain ⟨_, named, -⟩ := Work.except_bind_ok checked
  exact (checkNames_outcome change).2.2.1.mp named

/-- A document of operators is taken for such, unless it is empty. -/
theorem RawDocument.updateKind_operators (encoded : change.encode = .ok raw)
    (named : ∀ name ∈ change.names, ['$'] <+: name.toList) :
    raw.updateKind = .operators ↔ change ≠ [] := by
  rw [updateKind_encode encoded]
  cases change with
  | nil => exact ⟨by rintro ⟨name, ⟨⟩, -⟩, fun some => absurd rfl some⟩
  | cons field rest =>
    have first := named field.1 (List.mem_cons_self ..)
    exact ⟨fun _ => List.cons_ne_nil _ _, fun _ => ⟨field.1, rfl, first⟩⟩

/-- A document without names of operators is taken for a replacement. -/
theorem RawDocument.updateKind_replacement (encoded : change.encode = .ok raw)
    (named : ∀ name ∈ change.names, ¬ ['$'] <+: name.toList) : raw.updateKind = .replacement := by
  cases kind : raw.updateKind with
  | replacement => rfl
  | operators =>
    obtain ⟨name, first, operator⟩ := (updateKind_encode encoded).mp kind
    -- The first name is one of the names.
    have among : name ∈ change.names := by
      obtain ⟨field, head, rfl⟩ := Option.map_eq_some_iff.mp first
      exact List.mem_map_of_mem (List.mem_of_head? head)
    exact absurd operator (named name among)

end Judging

section Messages

/-- The collection and the task of the message that a write begins with, in any dialect. -/
def writeIn? (bytes : Bytes) : Option (String × WriteTask) :=
  match Mandate.ofCommand? bytes with
  | some mandate => some (mandate.collection, mandate.task)
  | none => legacyTask? bytes

/-- A legacy request is no command. -/
theorem writeIn?_of_legacyTask? {bytes : Bytes} {asked : String × WriteTask}
    (read : legacyTask? bytes = some asked) : writeIn? bytes = some asked := by
  have other : commandIn? bytes = none := by
    unfold legacyTask? at read
    unfold commandIn?
    cases header : opened? bytes with
    | none => rfl
    | some found =>
      obtain ⟨code, length, body⟩ := found
      rw [header] at read
      -- Only three codes are those of legacy writes.
      cases code with
      | insert => rfl
      | update => rfl
      | delete => rfl
      | reply => rfl
      | message => cases read
      | query => cases read
      | getMore => rfl
      | killCursors => rfl
  have none : Mandate.ofCommand? bytes = none := by
    rw [Mandate.ofCommand?, other]
    rfl
  unfold writeIn?
  rw [none]
  exact read

end Messages

namespace Write

variable {write : Write} {line : Line} {request : Request}

/-- What a write asks for is to do its task to its collection. -/
theorem task?_of_mandate? {mandate : Mandate} (meant : write.mandate? = some mandate) :
    write.task? = some mandate.task ∧ mandate.collection = write.target.text := by
  simp only [mandate?, Option.bind_eq_bind, Option.bind_eq_some_iff, Option.pure_def,
    Option.some.injEq] at meant
  obtain ⟨task, todo, options, -, rfl⟩ := meant
  exact ⟨todo, rfl⟩

/-- The messages, if there are any, begin with one that is read as the task of the write on its
collection. -/
def Begins (write : Write) (messages : List Bytes) : Prop :=
  ∀ first rest, messages = first :: rest →
    ∃ task, write.task? = some task ∧ writeIn? first = some (write.target.text, task)

/-- A write command is the only message to a server that takes it. -/
theorem begins_runCommand (write : Write) (line : Line) :
    ∃ messages, line.Sends (write.runCommand line).2 messages ∧ write.Begins messages := by
  rcases write.asked_runCommand line with ⟨same, -⟩ | ⟨request, id, bytes, framed, encoded, posted⟩
  · exact ⟨[], line.sends_nil same, nofun⟩
  · refine ⟨[bytes], posted, ?_⟩
    rintro first rest ⟨⟩
    obtain ⟨mandate, meant, read⟩ := ofCommand?_command framed encoded
    -- The command is read as what the write is to do, concern included, so the task is among it.
    obtain ⟨todo, collection⟩ := task?_of_mandate? meant
    refine ⟨mandate.task, todo, ?_⟩
    unfold writeIn?
    rw [read, ← collection]

/-- A legacy request is the first message to an older server; a question may follow. -/
theorem begins_runLegacy (write : Write) (line : Line) :
    ∃ messages, line.Sends (write.runLegacy line).2 messages ∧ write.Begins messages := by
  obtain ⟨messages, sends, posted⟩ := write.posted_runLegacy line
  refine ⟨messages, sends, ?_⟩
  rintro first rest rfl
  cases posted with
  | alone framed encoded | asked framed encoded =>
    obtain ⟨task, todo, read⟩ := legacyTask?_legacyRequest framed encoded
    exact ⟨task, todo, writeIn?_of_legacyTask? read⟩

/-- A write that sends anything has been judged well, and begins with its task. -/
theorem begins_run (write : Write) (line : Line) :
    ∃ messages, line.Sends (write.run line).2 messages ∧ write.Begins messages ∧
      (messages ≠ [] → write.statement.check line.connection.description = .ok ()) := by
  rw [run_apply]
  cases judged : write.judge line.connection.description with
  | error cause => exact ⟨[], line.sends_nil rfl, nofun, fun some => absurd rfl some⟩
  | ok _ =>
    -- The statement is checked first of all, in either dialect.
    obtain ⟨_, checked, -⟩ := Work.except_bind_ok judged
    dsimp only
    split
    · obtain ⟨messages, sends, begins⟩ := write.begins_runCommand line
      exact ⟨messages, sends, begins, fun _ => checked⟩
    · obtain ⟨messages, sends, begins⟩ := write.begins_runLegacy line
      exact ⟨messages, sends, begins, fun _ => checked⟩

variable {filter change : Document} {upsert multi : Bool} {kind : UpdateKind}

/-- What an update asks for is to do the change to what the filter picks. -/
theorem task?_update {task : WriteTask}
    (updates : write.statement = .update filter change upsert multi kind)
    (todo : write.task? = some task) :
    ∃ selector raw, filter.encode = .ok selector ∧ change.encode = .ok raw ∧
      task = .update selector raw upsert multi := by
  have known {document : Document} {raw : RawDocument}
      (found : document.encode.toOption = some raw) : document.encode = .ok raw :=
    Work.ok_of_toOption found
  simp only [task?, updates, Option.bind_eq_bind, Option.bind_eq_some_iff, Option.pure_def,
    Option.some.injEq] at todo
  obtain ⟨selector, chosen, raw, made, rfl⟩ := todo
  exact ⟨selector, raw, known chosen, known made, rfl⟩

/-- An update that goes out, in any dialect, is read with the document that it was made with. An
update by operators bears names of operators only, and a server takes its document for operators
unless it is empty; an empty one passes and is read as a replacement. No name of a replacement is
the name of an operator, and a server takes it for a replacement. -/
theorem update_outcome (write : Write) (line : Line)
    (updates : write.statement = .update filter change upsert multi kind) :
    (∃ messages, line.Sends (write.run line).2 messages ∧
      ∀ first rest, messages = first :: rest → ∃ selector raw,
        filter.encode = .ok selector ∧ change.encode = .ok raw ∧
        writeIn? first = some (write.target.text, .update selector raw upsert multi) ∧
        (kind = .operators → (∀ name ∈ change.names, ['$'] <+: name.toList) ∧
          (raw.updateKind = .operators ↔ change ≠ [])) ∧
        (kind = .replacement → (∀ name ∈ change.names, ¬ ['$'] <+: name.toList) ∧
          raw.updateKind = .replacement)) ∧
    (kind = .operators → change = [] →
      write.statement.check line.connection.description = .ok ()) := by
  constructor
  · obtain ⟨messages, sends, begins, judged⟩ := write.begins_run line
    refine ⟨messages, sends, ?_⟩
    rintro first rest rfl
    obtain ⟨task, todo, read⟩ := begins first rest rfl
    obtain ⟨selector, raw, chosen, made, rfl⟩ := task?_update updates todo
    -- Something went out, so the names were checked before; the two kinds are checked in opposite
    -- ways.
    have checked := judged (List.cons_ne_nil first rest)
    rw [updates] at checked
    refine ⟨selector, raw, chosen, made, read, ?_, ?_⟩
    · rintro rfl
      have named := Statement.check_operators.mp checked
      exact ⟨named, RawDocument.updateKind_operators made named⟩
    · rintro rfl
      have named := Statement.names_of_replacement checked
      exact ⟨named, RawDocument.updateKind_replacement made named⟩
  · rintro rfl rfl
    rw [updates]
    exact Statement.check_operators.mpr nofun

/-- An update by no operators at all goes out in each of the dialects, and is read as a replacement
by an empty document. -/
theorem update_outcome_empty :
    let lineOf (wireVersion : Int32) : Line :=
      { connection := .fresh ⟨default, 1⟩ { address := default, wireVersion } {}, network := {} }
    let write : Write :=
      { target := ⟨"db", "c"⟩
        statement := .update [("_id", .int32 0)] [] false false .operators }
    ∀ wireVersion ∈ [21, 5, 1], ∃ message rest selector raw,
      (write.run (lineOf wireVersion)).2.network.sent = (1, message) :: rest ∧
        writeIn? message = some ("db.c", .update selector raw false false) ∧
        raw.updateKind = .replacement := by
  intro lineOf write wireVersion among
  have speaks : [21, 5, 1].all
      (fun wireVersion => 0 < (write.run (lineOf wireVersion)).2.network.sent.length) = true := by
    decide +kernel
  obtain ⟨⟨messages, sends, reads⟩, -⟩ := update_outcome write (lineOf wireVersion) rfl
  have some := of_decide_eq_true (List.all_eq_true.mp speaks wireVersion among)
  rw [show (write.run (lineOf wireVersion)).2.network.sent = _ from sends] at some ⊢
  cases messages with
  | nil => cases some
  | cons message rest =>
    obtain ⟨selector, raw, -, -, read, taken, -⟩ := reads message rest rfl
    refine ⟨message, _, selector, raw, rfl, read, ?_⟩
    -- The change has no first name to tell it from a replacement.
    cases kind : raw.updateKind with
    | replacement => rfl
    | operators => exact absurd rfl ((taken rfl).2.mp kind)

end Write

end DocWire
