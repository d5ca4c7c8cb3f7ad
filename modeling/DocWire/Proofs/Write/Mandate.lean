import DocWire.Proofs.Document.Written
import DocWire.Proofs.Executor.Mismatch
import DocWire.Proofs.Wire.Grammar

/-! What a write asks for, as the server reads it off the messages: a write command in one of the
framings, or a legacy request and the question for the last error after it. -/

namespace DocWire

/-- What is to be done to a collection, with the documents as they travel. -/
inductive WriteTask where
  | insert (documents : List RawDocument) (goesOn : Bool)
  | update (selector change : RawDocument) (upsert multi : Bool)
  | delete (selector : RawDocument) (single : Bool)
deriving DecidableEq, Repr

/-- What is to be done, to which collection, and with which options it is to be acknowledged. -/
structure Mandate where
  collection : String
  task : WriteTask
  options : List RawElement
deriving DecidableEq, Repr

section Commands

/-- What a write command of a name is to do. -/
def WriteTask.ofCommand? (name : String) (body : RawDocument) : Option WriteTask :=
  match name with
  | "insert" => do
    let documents ← body.documentsIn? "documents"
    let ordered ← body.truthIn? "ordered"
    return .insert documents (!ordered)
  | "update" => do
    let [statement] ← body.documentsIn? "updates" | none
    let selector ← (statement.document "q").toOption
    let change ← (statement.document "u").toOption
    return .update selector change (← statement.truthIn? "upsert") (← statement.truthIn? "multi")
  | "delete" => do
    let [statement] ← body.documentsIn? "deletes" | none
    let selector ← (statement.document "q").toOption
    -- The limit is one document, or zero for all that there are.
    match (← statement.wordIn? "limit").toInt with
    | 1 => some (.delete selector true)
    | 0 => some (.delete selector false)
    | _ => none
  | _ => none

/-- What a write command to a database asks for. The first field names the command and tells the
collection. -/
def Mandate.ofBody? (database : String) (body : RawDocument) : Option Mandate := do
  let first ← (scanAll body.elements).1.head?
  let collection ← body.textIn? first.key
  let task ← WriteTask.ofCommand? first.key body
  let options ← body.elementsIn? "writeConcern"
  return { collection := database ++ "." ++ collection, task, options }

end Commands

section Messages

/-- The code and the body of a message whose header tells its length. -/
def opened? (bytes : Bytes) : Option (OpCode × Int32 × Bytes) := do
  let header ← (Header.ofBytes (bytes.take headerLength)).toOption
  if header.length.toInt = bytes.length then
    some (header.code, header.length, bytes.drop headerLength)
  else none

/-- The database of a collection that takes commands. -/
def commandDatabase? (collection : String) : Option String :=
  let length := collection.toList.length - 5
  if collection.toList.drop length = ".$cmd".toList then
    some (String.ofList (collection.toList.take length))
  else none

/-- The collection and the document of a legacy query. -/
def readQuery (body : Bytes) : Except Cause (String × RawDocument) := do
  let (_, bytes) ← readUInt32 body
  let (target, bytes) ← readZeroTerminated bytes
  let (_, bytes) ← readInt32 bytes
  let (_, bytes) ← readInt32 bytes
  let (query, _) ← readDocument bytes
  return (target, query)

/-- The command in a message: its database and its document. -/
def commandIn? (bytes : Bytes) : Option (String × RawDocument) := do
  match ← opened? bytes with
  | (.message, length, body) =>
    -- The database is told among the other fields.
    let message ← (Message.read length body).toOption
    return (← message.body.textIn? "$db", message.body)
  | (.query, _, body) =>
    let (target, query) ← (readQuery body).toOption
    return (← commandDatabase? target, query)
  | _ => none

/-- What a write command asks for. -/
def Mandate.ofCommand? (bytes : Bytes) : Option Mandate := do
  let (database, body) ← commandIn? bytes
  Mandate.ofBody? database body

/-- The documents to insert; the one flag tells to go on after a failure. -/
def readInsert (body : Bytes) : Except Cause (String × WriteTask) := do
  let (flags, bytes) ← readUInt32 body
  let (target, bytes) ← readZeroTerminated bytes
  let documents ← readDocuments bytes
  return (target, .insert documents (hasBit flags 0))

/-- What to update; one flag tells to insert what is not there, the other to update all. -/
def readUpdate (body : Bytes) : Except Cause (String × WriteTask) := do
  let (_, bytes) ← readInt32 body
  let (target, bytes) ← readZeroTerminated bytes
  let (flags, bytes) ← readUInt32 bytes
  let (selector, bytes) ← readDocument bytes
  let (change, _) ← readDocument bytes
  return (target, .update selector change (hasBit flags 0) (hasBit flags 1))

/-- What to delete; the one flag tells to delete one document only. -/
def readDelete (body : Bytes) : Except Cause (String × WriteTask) := do
  let (_, bytes) ← readInt32 body
  let (target, bytes) ← readZeroTerminated bytes
  let (flags, bytes) ← readUInt32 bytes
  let (selector, _) ← readDocument bytes
  return (target, .delete selector (hasBit flags 0))

/-- The collection and the task of a legacy request. -/
def legacyTask? (bytes : Bytes) : Option (String × WriteTask) := do
  match ← opened? bytes with
  | (.insert, _, body) => (readInsert body).toOption
  | (.update, _, body) => (readUpdate body).toOption
  | (.delete, _, body) => (readDelete body).toOption
  | _ => none

/-- The database that is asked for its last error, and the options beside the question. -/
def lastErrorOptions? (bytes : Bytes) : Option (String × List RawElement) := do
  let (database, body) ← commandIn? bytes
  match scanAll body.elements with
  | (first :: options, false) =>
    if first.key = "getlasterror" then some (database, options) else none
  | _ => none

/-- What a legacy request asks for, with the question after it, which goes to the same database. -/
def Mandate.ofLegacy? (posted asked : Bytes) : Option Mandate := do
  let (collection, task) ← legacyTask? posted
  let (database, options) ← lastErrorOptions? asked
  if (database ++ ".").toList <+: collection.toList then some { collection, task, options }
  else none

end Messages

/-- Servers without write commands do not know messages of the current framing either. -/
theorem ConnectionDescription.hasMessages_of_legacy
    {description : ConnectionDescription} (legacy : description.hasWriteCommands = false) :
    description.hasMessages = false := by
  -- Write commands came with version two, and messages with version six.
  have two : Int32.toInt 2 = 2 := rfl
  have six : Int32.toInt 6 = 6 := rfl
  simp only [ConnectionDescription.hasWriteCommands, ConnectionDescription.hasMessages,
    decide_eq_false_iff_not, Int32.le_iff_toInt_le, two, six] at legacy ⊢
  omega

/-- The messages have gone out over the line, in their order, and nothing else has. -/
def Line.Sends (line after : Line) (messages : List Bytes) : Prop :=
  after.network.sent
    = line.network.sent ++ messages.map fun bytes => (line.connection.id.number, bytes)

theorem Line.sends_nil (line : Line) {after : Line}
    (same : after.network.sent = line.network.sent) : line.Sends after [] :=
  same.trans (List.append_nil _).symm

namespace Write

/-- What a write is to do, when its documents can be written. -/
def task? (write : Write) : Option WriteTask :=
  match write.statement with
  | .insert document => do
    let document ← document.encode.toOption
    return .insert [document] (!write.ordered)
  | .update filter change upsert multi _ => do
    let selector ← filter.encode.toOption
    let change ← change.encode.toOption
    return .update selector change upsert multi
  | .delete filter multi => do
    let selector ← filter.encode.toOption
    return .delete selector (!multi)

/-- What a write asks for. A concern without options asks for none. -/
def mandate? (write : Write) : Option Mandate := do
  let task ← write.task?
  let options ← rawElements? write.concern.toDocument
  return { collection := write.target.text, task, options }

section Bodies

variable {write : Write} {document : Document} {raw : RawDocument}

/-- A document spells a write command, whatever other fields it has. -/
structure Spelled (write : Write) (document : Document) : Prop where
  first : document.head?.map (·.1) = some write.statement.name
  collection : document.get? write.statement.name = some (.string write.target.collection)
  ordered : document.get? "ordered" = some (.boolean write.ordered)
  statements : document.get? write.statement.identifier
    = some (.array [.document write.statement.toDocument])
  concern : document.get? "writeConcern"
    = if write.concern.isEmpty then none else some (.document write.concern.toDocument)
  plain : ∀ field ∈ document, field.2.kind.isPlain = true

/-- The body of the command spells the write, and so it does with its database among the fields. -/
theorem spelled_body (write : Write) : write.Spelled write.body ∧
    write.Spelled (write.body.insert "$db" (.string write.target.database)) := by
  -- The shape of a body depends on its statement and on whether a concern is told.
  obtain ⟨target, statement, ordered, concern, context⟩ := write
  cases empty : concern.isEmpty <;> cases statement <;>
    refine ⟨⟨?_, ?_, ?_, ?_, ?_, ?_⟩, ⟨?_, ?_, ?_, ?_, ?_, ?_⟩⟩ <;>
    simp [body, empty, Statement.name, Statement.identifier, Document.ofFields, Document.extend,
      Document.insert, Document.get?, Value.kind, ElementKind.isPlain]

/-- The fields of a concern tell their own ends. -/
theorem plain_concern (concern : WriteConcern) :
    ∀ field ∈ concern.toDocument, field.2.kind.isPlain = true := by
  obtain ⟨members, timeout, journal⟩ := concern
  intro field among
  simp only [WriteConcern.toDocument, List.mem_append, Option.mem_toList, Option.map_eq_some_iff]
    at among
  rcases among with (⟨members, -, rfl⟩ | ⟨timeout, -, rfl⟩) | ⟨journal, -, rfl⟩
  -- Which members have to take the write is told by a word or by a text.
  · cases members <;> rfl
  · rfl
  · rfl

/-- A concern that asks for nothing has no options. -/
theorem toDocument_of_isEmpty {concern : WriteConcern} (empty : concern.isEmpty = true) :
    concern.toDocument = [] := by
  obtain ⟨members, timeout, journal⟩ := concern
  simp only [WriteConcern.isEmpty, Bool.and_eq_true, Option.isNone_iff_eq_none] at empty
  obtain ⟨⟨rfl, rfl⟩, rfl⟩ := empty
  rfl

/-- What the statement is to do is read off the body. -/
theorem Spelled.task (spelled : write.Spelled document) (written : document.Written raw) :
    ∃ task, write.task? = some task ∧
      WriteTask.ofCommand? write.statement.name raw = some task := by
  -- The statement is the one document in the array, and its choices are fields of it.
  obtain ⟨inner, encoded, small, there⟩ := written.documentsIn?_eq spelled.statements
  have ordered := written.truthIn?_eq spelled.ordered
  cases statement : write.statement with
  | insert inserted =>
    simp only [statement, Statement.toDocument, Statement.identifier] at encoded there
    refine ⟨.insert [inner] (!write.ordered), ?_, ?_⟩
    · simp [task?, statement, encoded, Except.toOption]
    · simp [Statement.name, WriteTask.ofCommand?, there, ordered]
  | update filter change upsert multi kind =>
    simp only [statement, Statement.toDocument, Statement.identifier] at encoded there
    have held : Document.Written _ inner :=
      ⟨by simp [Value.kind, ElementKind.isPlain], encoded, small⟩
    obtain ⟨selector, chosen, -, q⟩ := held.document_eq (rfl : Document.get? _ "q" = _)
    obtain ⟨changed, made, -, u⟩ := held.document_eq (rfl : Document.get? _ "u" = _)
    have upserts := held.truthIn?_eq (rfl : Document.get? _ "upsert" = _)
    have many := held.truthIn?_eq (rfl : Document.get? _ "multi" = _)
    refine ⟨.update selector changed upsert multi, ?_, ?_⟩
    · simp [task?, statement, chosen, made, Except.toOption]
    · simp [Statement.name, WriteTask.ofCommand?, there, q, u, upserts, many, Except.toOption]
  | delete filter multi =>
    simp only [statement, Statement.toDocument, Statement.identifier] at encoded there
    have held : Document.Written _ inner :=
      ⟨by simp [Value.kind, ElementKind.isPlain], encoded, small⟩
    obtain ⟨selector, chosen, -, q⟩ := held.document_eq (rfl : Document.get? _ "q" = _)
    have limit := held.wordIn?_eq (rfl : Document.get? _ "limit" = _)
    refine ⟨.delete selector (!multi), ?_, ?_⟩
    · simp [task?, statement, chosen, Except.toOption]
    · cases multi <;> simp [Statement.name, WriteTask.ofCommand?, there, q, limit, Except.toOption]

/-- The options of the concern are those of its field, and none without the field. -/
theorem Spelled.options (spelled : write.Spelled document) (written : document.Written raw) :
    ∃ options, rawElements? write.concern.toDocument = some options ∧
      raw.elementsIn? "writeConcern" = some options := by
  -- A concern that asks for nothing is left out, and no field is read as no options.
  have concern := spelled.concern
  split at concern
  · rename_i empty
    rw [toDocument_of_isEmpty empty]
    exact ⟨[], rfl, written.elementsIn?_absent concern⟩
  · exact written.elementsIn?_eq concern (plain_concern _)

/-- A body that spells the write asks for what the write asks for. -/
theorem Spelled.ofBody? (spelled : write.Spelled document) (written : document.Written raw) :
    ∃ mandate, write.mandate? = some mandate ∧
      Mandate.ofBody? write.target.database raw = some mandate := by
  -- The task, the options and the collection are found in the body one by one.
  obtain ⟨task, meant, done⟩ := spelled.task written
  obtain ⟨options, asked, there⟩ := spelled.options written
  have collection := written.textIn?_eq spelled.collection
  have first := written.head?_scanAll.trans spelled.first
  obtain ⟨element, head, name⟩ := Option.map_eq_some_iff.mp first
  refine ⟨⟨write.target.text, task, options⟩, ?_, ?_⟩
  · simp only [mandate?, meant, asked, Option.bind_eq_bind, Option.bind_some, Option.pure_def]
  · simp only [Mandate.ofBody?, head, name, collection, done, there, Option.bind_eq_bind,
      Option.bind_some, Option.pure_def]
    rfl

end Bodies

section Frames

variable {request : Request} {id : Int32} {bytes : Bytes}

/-- A request that is encoded is a message with its code and its body. -/
theorem opened?_encode (encoded : request.encode id = .ok bytes) :
    ∃ length body, request.encodeBody = .ok body ∧
      opened? bytes = some (request.opCode, length, body) ∧ body.length ≤ largestWord := by
  obtain ⟨body, spelled, framed⟩ := Work.except_bind_ok encoded
  obtain ⟨header, found, length, -, -, code⟩ := Header.ofBytes_frame framed
  -- Sixteen bytes stand before the body, and all of them together are not too many for a word.
  have cut : bytes.drop headerLength = body ∧ body.length ≤ largestWord := by
    unfold frame at framed
    dsimp only at framed
    split at framed
    · cases framed
    · cases framed
      refine ⟨List.drop_left' ?_, by omega⟩
      simp [Bytes.ofInt32, Bytes.length_ofNat, headerLength]
  refine ⟨header.length, body, spelled, ?_, cut.2⟩
  simp only [opened?, found, Except.toOption, Option.bind_eq_bind, Option.bind_some, if_pos length,
    code, cut.1]

end Frames

section Readers

variable {rest : Bytes}

theorem readUInt32_append (word : UInt32) :
    readUInt32 (Bytes.ofUInt32 word ++ rest) = .ok (word, rest) :=
  readUInt32_eq_ok.mpr ⟨_, Bytes.length_ofNat 4 _, Bytes.toUInt32_ofUInt32 word, rfl⟩

theorem readInt32_append (word : Int32) :
    readInt32 (Bytes.ofInt32 word ++ rest) = .ok (word, rest) :=
  readInt32_eq_ok.mpr ⟨_, Bytes.length_ofNat 4 _, Bytes.toInt32_ofInt32 word, rfl⟩

theorem readInt32_reserved : readInt32 (reserved ++ rest) = .ok (0, rest) :=
  readInt32_eq_ok.mpr ⟨reserved, rfl, rfl, rfl⟩

/-- A word with one flag is read as the flag. -/
theorem readUInt32_flag (flag : Bool) :
    ∃ word, readUInt32 (Bytes.ofNat 4 (bitIf flag 0) ++ rest) = .ok (word, rest) ∧
      hasBit word 0 = flag := by
  refine ⟨_, readUInt32_eq_ok.mpr ⟨_, Bytes.length_ofNat 4 _, rfl, rfl⟩, ?_⟩
  cases flag <;> rfl

theorem readZeroTerminated_append {text : String} (named : '\x00' ∉ text.toList) :
    readZeroTerminated (Bytes.ofString text ++ [0] ++ rest) = .ok (text, rest) :=
  readZeroTerminated_eq_ok.mpr ⟨named, by simp⟩

theorem readDocument_append {document : RawDocument} (sound : document.Measured) :
    readDocument (document.bytes ++ rest) = .ok (document, rest) :=
  readDocument_eq_ok.mpr ⟨sound, rfl⟩

variable {body : Bytes}

/-- A query without a projection is read as its collection and its document. -/
theorem readQuery_encode {query : LegacyQuery} (encoded : query.encode = .ok body)
    (sound : query.query.Measured) (alone : query.fields = none) :
    readQuery body = .ok (query.target.text, query.query) := by
  -- Field by field, the reader takes what the writer has put in front.
  obtain ⟨target, named, encoded⟩ := Work.except_bind_ok encoded
  obtain ⟨clean, rfl⟩ := encodeNamespace_ok named
  cases encoded
  have document : readDocument (query.query.bytes ++ []) = .ok (query.query, []) :=
    readDocument_append sound
  simp only [alone, Option.map_none, Option.getD_none, readQuery, List.append_assoc]
  simp only [← List.append_assoc (Bytes.ofString _) [0], readUInt32_append,
    readZeroTerminated_append clean, readInt32_append, document, bind, Except.bind, pure,
    Except.pure]

/-- An insertion is read as its documents and its flag. -/
theorem readInsert_encode {insert : LegacyInsert} (encoded : insert.encode = .ok body)
    (sound : ∀ document ∈ insert.documents, document.Measured) :
    readInsert body
      = .ok (insert.target.text, .insert insert.documents insert.continueOnError) := by
  obtain ⟨target, named, encoded⟩ := Work.except_bind_ok encoded
  obtain ⟨clean, rfl⟩ := encodeNamespace_ok named
  cases encoded
  have documents := readDocuments_eq_ok.mpr
    ⟨sound, Eq.refl (insert.documents.flatMap (·.bytes))⟩
  rw [List.append_assoc]
  -- The flag is the first bit of a word, and the documents run to the end.
  obtain ⟨word, flags, goesOn⟩ := @readUInt32_flag
    (Bytes.ofString insert.target.text ++ [0] ++ insert.documents.flatMap (·.bytes))
    insert.continueOnError
  simp only [readInsert, flags, readZeroTerminated_append clean, documents, goesOn, bind,
    Except.bind, pure, Except.pure]

/-- An update is read as its documents and its flags. -/
theorem readUpdate_encode {update : LegacyUpdate} (encoded : update.encode = .ok body)
    (chosen : update.selector.Measured) (changed : update.update.Measured) :
    readUpdate body = .ok (update.target.text,
      .update update.selector update.update update.flags.upsert update.flags.multi) := by
  -- Both flags are in one word, from which either is read back.
  obtain ⟨target, named, encoded⟩ := Work.except_bind_ok encoded
  obtain ⟨clean, rfl⟩ := encodeNamespace_ok named
  cases encoded
  have change : readDocument (update.update.bytes ++ []) = .ok (update.update, []) :=
    readDocument_append changed
  rw [List.append_nil] at change
  have word := UpdateFlags.ofWord_toWord update.flags
  have upsert := congrArg UpdateFlags.upsert word
  have multi := congrArg UpdateFlags.multi word
  simp only [UpdateFlags.ofWord] at upsert multi
  simp only [readUpdate, List.append_assoc]
  simp only [← List.append_assoc (Bytes.ofString _) [0], readInt32_reserved,
    readZeroTerminated_append clean, readUInt32_append, readDocument_append chosen, change,
    upsert, multi, bind, Except.bind, pure, Except.pure]

/-- A deletion is read as its document and its flag. -/
theorem readDelete_encode {delete : LegacyDelete} (encoded : delete.encode = .ok body)
    (chosen : delete.selector.Measured) :
    readDelete body = .ok (delete.target.text, .delete delete.selector delete.singleRemove) := by
  obtain ⟨target, named, encoded⟩ := Work.except_bind_ok encoded
  obtain ⟨clean, rfl⟩ := encodeNamespace_ok named
  cases encoded
  have selector : readDocument (delete.selector.bytes ++ []) = .ok (delete.selector, []) :=
    readDocument_append chosen
  rw [List.append_nil] at selector
  -- The flag is the first bit of a word, and the selector is all that stands behind it.
  obtain ⟨word, flags, single⟩ := @readUInt32_flag delete.selector.bytes delete.singleRemove
  simp only [readDelete, List.append_assoc]
  simp only [← List.append_assoc (Bytes.ofString _) [0], readInt32_reserved,
    readZeroTerminated_append clean, flags, selector, single, bind, Except.bind, pure, Except.pure]

end Readers

section Commands

variable {command : Command} {description : ConnectionDescription} {request : Request}
  {id : Int32} {bytes : Bytes}

/-- The collection of commands tells the database. -/
theorem commandDatabase?_text (database : String) :
    commandDatabase? (Namespace.ofCommands database).text = some database := by
  have spelled : (Namespace.ofCommands database).text.toList
      = database.toList ++ ['.', '$', 'c', 'm', 'd'] := by
    simp [Namespace.text, Namespace.ofCommands]
  simp [commandDatabase?, spelled]

/-- A command without sequences is framed as a query of its body, or of what stands around it. -/
theorem request_query (alone : command.sequences = []) (queries : description.hasMessages = false)
    (framed : command.request description = .ok request) :
    ∃ raw, (command.queryBody command.body description.type).encode = .ok raw ∧ request = .query
      { flags := { secondaryOk := command.secondaryPreference.isSome }
        target := Namespace.ofCommands command.database
        toReturn := -1
        query := raw } := by
  simp only [Command.request, queries, Bool.false_eq_true, if_false, Command.toQuery, alone,
    Command.embed] at framed
  obtain ⟨query, made, framed⟩ := Work.except_map_ok framed
  obtain ⟨body, embedded, made⟩ := Work.except_bind_ok made
  cases embedded
  obtain ⟨raw, written, made⟩ := Work.except_bind_ok made
  -- The length was judged as well, which changes nothing in the bytes.
  obtain ⟨_, _, made⟩ := Work.except_bind_ok made
  cases made
  exact ⟨raw, written, framed.symm⟩

/-- A command without sequences is framed as a message of its body alone. -/
theorem request_message (alone : command.sequences = []) (messages : description.hasMessages = true)
    (framed : command.request description = .ok request) :
    ∃ raw, (command.messageBody description.type).encode = .ok raw ∧ request = .message
      { flags := { moreToCome := !command.responseExpected }, body := raw, sequences := [] } := by
  simp only [Command.request, messages, if_true, Command.toMessage, alone] at framed
  obtain ⟨message, made, framed⟩ := Work.except_map_ok framed
  obtain ⟨raw, written, made⟩ := Work.except_bind_ok made
  obtain ⟨_, _, made⟩ := Work.except_bind_ok made
  cases made
  exact ⟨raw, written, framed.symm⟩

/-- A document of a query is a part of the message, so that it can be measured. -/
theorem length_query_le {query : LegacyQuery} {body : Bytes} (coded : query.encode = .ok body)
    (small : body.length ≤ largestWord) : query.query.bytes.length ≤ largestWord := by
  obtain ⟨target, _, made⟩ := Work.except_bind_ok coded
  cases made
  simp only [List.length_append] at small
  omega

/-- The body of a message is a part of it, so that it can be measured. -/
theorem length_body_le {message : Message} {body : Bytes} (coded : message.encode = .ok body)
    (small : body.length ≤ largestWord) : message.body.bytes.length ≤ largestWord := by
  obtain ⟨sections, _, made⟩ := Work.except_bind_ok coded
  cases made
  simp only [List.length_append] at small
  omega

/-- A message of a body alone is read back from its bytes. -/
theorem read_message {message : Message} {body : Bytes} (coded : message.encode = .ok body)
    (plain : message.flags.checksumPresent = false) (alone : message.sequences = [])
    (sound : message.body.Measured) (declared : Int32) :
    Message.read declared body = .ok message := by
  obtain ⟨other, again, spelled⟩ :=
    Message.spelled_of_encode plain sound (by simp [alone]) (by simp [alone])
  obtain rfl : other = body := Except.ok.inj (again.symm.trans coded)
  exact Message.read_eq_ok.mpr spelled

/-- A command without sequences that is framed as a query is read from the query, with what stands
around it. -/
theorem commandIn?_framedQuery (alone : command.sequences = [])
    (plain : ∀ field ∈ command.queryBody command.body description.type,
      field.2.kind.isPlain = true)
    (queries : description.hasMessages = false) (framed : command.request description = .ok request)
    (encoded : request.encode id = .ok bytes) :
    ∃ raw, commandIn? bytes = some (command.database, raw) ∧
      (command.queryBody command.body description.type).Written raw := by
  obtain ⟨raw, written, rfl⟩ := request_query alone queries framed
  obtain ⟨length, body, coded, header, small⟩ := opened?_encode encoded
  have whole : Document.Written _ raw := ⟨plain, written, length_query_le coded small⟩
  have read := readQuery_encode coded whole.measured rfl
  -- The database is what stands before the dot in the full name of the query.
  have database := commandDatabase?_text command.database
  refine ⟨raw, ?_, whole⟩
  simp only [commandIn?, header, Request.opCode, read, Except.toOption, Option.bind_eq_bind,
    Option.bind_some, database, Option.pure_def]

/-- The database stands in a message of a command, whether a preference stands behind it or not. -/
theorem get?_database (command : Command) (type : ServerType) :
    (command.messageBody type).get? "$db" = some (.string command.database) := by
  have stamped := Document.get?_insert command.body "$db" (.string command.database)
  unfold Command.messageBody
  dsimp only
  -- A preference beside it has another name.
  split
  · split
    · exact stamped
    · exact (Document.get?_insert_of_ne _ _ _ (by decide)).trans stamped
  · exact stamped

/-- A command without sequences that is framed as a message is read from the message, where the
database stands among its fields. -/
theorem commandIn?_framedMessage (alone : command.sequences = [])
    (plain : ∀ field ∈ command.messageBody description.type, field.2.kind.isPlain = true)
    (messages : description.hasMessages = true) (framed : command.request description = .ok request)
    (encoded : request.encode id = .ok bytes) :
    ∃ raw, commandIn? bytes = some (command.database, raw) ∧
      (command.messageBody description.type).Written raw := by
  obtain ⟨raw, written, rfl⟩ := request_message alone messages framed
  obtain ⟨length, body, coded, header, small⟩ := opened?_encode encoded
  have whole : Document.Written _ raw := ⟨plain, written, length_body_le coded small⟩
  have read := read_message coded rfl rfl whole.measured length
  -- The database is a field of the body here.
  have database := whole.textIn?_eq (get?_database command description.type)
  refine ⟨raw, ?_, whole⟩
  simp only [commandIn?, header, Request.opCode, read, Except.toOption, Option.bind_eq_bind,
    Option.bind_some, database, Option.pure_def]

/-- Without a preference, the body is framed as a query as it stands. -/
theorem commandIn?_query (alone : command.sequences = [])
    (nobody : command.readPreference = none)
    (plain : ∀ field ∈ command.body, field.2.kind.isPlain = true)
    (queries : description.hasMessages = false) (framed : command.request description = .ok request)
    (encoded : request.encode id = .ok bytes) :
    ∃ raw, commandIn? bytes = some (command.database, raw) ∧ command.body.Written raw := by
  have none : command.secondaryPreference = none := by rw [Command.secondaryPreference, nobody]; rfl
  have bare : command.queryBody command.body description.type = command.body := by
    rw [Command.queryBody, none]
  have read := commandIn?_framedQuery alone (bare.symm ▸ plain) queries framed encoded
  rwa [bare] at read

/-- Without a preference, only the database is put into the body that is framed as a message. -/
theorem commandIn?_message (alone : command.sequences = [])
    (nobody : command.readPreference = none)
    (plain : ∀ field ∈ command.body.insert "$db" (.string command.database),
      field.2.kind.isPlain = true)
    (messages : description.hasMessages = true) (framed : command.request description = .ok request)
    (encoded : request.encode id = .ok bytes) :
    ∃ raw, commandIn? bytes = some (command.database, raw) ∧
      (command.body.insert "$db" (.string command.database)).Written raw := by
  have none : command.secondaryPreference = none := by rw [Command.secondaryPreference, nobody]; rfl
  have bare : command.messageBody description.type
      = command.body.insert "$db" (.string command.database) := by
    simp only [Command.messageBody, none]
  have read := commandIn?_framedMessage alone (bare.symm ▸ plain) messages framed encoded
  rwa [bare] at read

end Commands

section Dialects

variable {write : Write} {description : ConnectionDescription} {request : Request} {id : Int32}
  {bytes : Bytes}

/-- A write command asks for what the write asks for, in either framing. -/
theorem ofCommand?_command (framed : write.command.request description = .ok request)
    (encoded : request.encode id = .ok bytes) :
    ∃ mandate, write.mandate? = some mandate ∧ Mandate.ofCommand? bytes = some mandate := by
  -- The framing decides where the database is told, and in either place it is read back.
  obtain ⟨plain, stamped⟩ := write.spelled_body
  have read : ∃ document raw, write.Spelled document ∧ document.Written raw ∧
      commandIn? bytes = some (write.target.database, raw) := by
    cases messages : description.hasMessages with
    | false =>
      obtain ⟨raw, found, written⟩ := commandIn?_query rfl rfl plain.plain messages framed encoded
      exact ⟨_, raw, plain, written, found⟩
    | true =>
      obtain ⟨raw, found, written⟩ :=
        commandIn?_message rfl rfl stamped.plain messages framed encoded
      exact ⟨_, raw, stamped, written, found⟩
  obtain ⟨document, raw, spelled, written, found⟩ := read
  obtain ⟨mandate, meant, asked⟩ := spelled.ofBody? written
  refine ⟨mandate, meant, ?_⟩
  simp only [Mandate.ofCommand?, found, Option.bind_eq_bind, Option.bind_some, asked]

/-- A legacy request is to do what the write is to do, to its collection. -/
theorem legacyTask?_legacyRequest (framed : write.legacyRequest = .ok request)
    (encoded : request.encode id = .ok bytes) :
    ∃ task, write.task? = some task ∧ legacyTask? bytes = some (write.target.text, task) := by
  -- A document that is a part of a message is short enough to be measured, and so is read back.
  obtain ⟨length, body, coded, header, small⟩ := opened?_encode encoded
  cases legacyForm_of_framed framed with
  | @insert document raw statement written =>
    have short : raw.bytes.length ≤ largestWord := by
      obtain ⟨target, _, made⟩ := Work.except_bind_ok (coded : LegacyInsert.encode _ = _)
      cases made
      simp only [List.flatMap_cons, List.length_append] at small
      omega
    have read := readInsert_encode coded
      (List.forall_mem_singleton.mpr (Document.measured_encode written short))
    refine ⟨.insert [raw] (!write.ordered), ?_, ?_⟩
    · simp [task?, statement, written, Except.toOption]
    · simp [legacyTask?, header, Request.opCode, read, Except.toOption]
  | @update filter change upsert multi kind selector changed statement chosen made =>
    have short : selector.bytes.length ≤ largestWord ∧ changed.bytes.length ≤ largestWord := by
      obtain ⟨target, _, made⟩ := Work.except_bind_ok (coded : LegacyUpdate.encode _ = _)
      cases made
      simp only [List.length_append] at small
      omega
    have read := readUpdate_encode coded (Document.measured_encode chosen short.1)
      (Document.measured_encode made short.2)
    refine ⟨.update selector changed upsert multi, ?_, ?_⟩
    · simp [task?, statement, chosen, made, Except.toOption]
    · simp [legacyTask?, header, Request.opCode, read, Except.toOption]
  | @delete filter multi selector statement chosen =>
    have short : selector.bytes.length ≤ largestWord := by
      obtain ⟨target, _, made⟩ := Work.except_bind_ok (coded : LegacyDelete.encode _ = _)
      cases made
      simp only [List.length_append] at small
      omega
    have read := readDelete_encode coded (Document.measured_encode chosen short)
    refine ⟨.delete selector (!multi), ?_, ?_⟩
    · simp [task?, statement, chosen, Except.toOption]
    · simp [legacyTask?, header, Request.opCode, read, Except.toOption]

/-- The question for the last error lists the options of the concern behind its name. -/
theorem body_lastErrorCommand (concern : WriteConcern) :
    concern.lastErrorCommand = ("getlasterror", .int32 1) :: concern.toDocument := by
  -- The options bear three names, none of them twice and none of them that of the question.
  obtain ⟨members, timeout, journal⟩ := concern
  cases members <;> cases timeout <;> cases journal <;>
    simp [WriteConcern.lastErrorCommand, WriteConcern.toDocument, Document.extend, Document.insert]

/-- The question asks the database of the write, with the options of the concern. -/
theorem lastErrorOptions?_question (queries : description.hasMessages = false)
    (framed : write.lastErrorCommand.request description = .ok request)
    (encoded : request.encode id = .ok bytes) :
    ∃ options, rawElements? write.concern.toDocument = some options ∧
      lastErrorOptions? bytes = some (write.target.database, options) := by
  -- The question goes to servers without messages, so it is framed as a query.
  have body := body_lastErrorCommand write.concern
  have plain : ∀ field ∈ write.concern.lastErrorCommand, field.2.kind.isPlain = true := by
    rw [body]
    exact List.forall_mem_cons.mpr ⟨rfl, plain_concern _⟩
  obtain ⟨raw, found, written⟩ := commandIn?_query rfl rfl plain queries framed encoded
  obtain ⟨elements, there, holds⟩ := written.holds
  have there : rawElements? (("getlasterror", .int32 1) :: write.concern.toDocument)
      = some elements := by
    rw [← body]
    exact there
  obtain ⟨payload, options, coded, listed, rfl⟩ := rawElements?_cons.mp there
  refine ⟨options, listed, ?_⟩
  simp only [lastErrorOptions?, found, Option.bind_eq_bind, Option.bind_some, holds.scanAll_eq,
    if_true]
  rfl

/-- A legacy request and the question after it ask for what the write asks for. -/
theorem ofLegacy?_question {question : Request} {other : Int32} {asked : Bytes}
    (queries : description.hasMessages = false) (framed : write.legacyRequest = .ok request)
    (encoded : request.encode id = .ok bytes)
    (formed : write.lastErrorCommand.request description = .ok question)
    (coded : question.encode other = .ok asked) :
    ∃ mandate, write.mandate? = some mandate ∧ Mandate.ofLegacy? bytes asked = some mandate := by
  obtain ⟨task, meant, done⟩ := legacyTask?_legacyRequest framed encoded
  obtain ⟨options, listed, told⟩ := lastErrorOptions?_question queries formed coded
  have within : (write.target.database ++ ".").toList <+: write.target.text.toList := by
    simp [Namespace.text]
  refine ⟨⟨write.target.text, task, options⟩, ?_, ?_⟩
  · simp only [mandate?, meant, listed, Option.bind_eq_bind, Option.bind_some, Option.pure_def]
  · simp only [Mandate.ofLegacy?, done, told, Option.bind_eq_bind, Option.bind_some, if_pos within]

end Dialects

section Runs

variable {α : Type} {request : Request} {context : Correlation}

/-- What comes of work that asks something: nothing goes out and there is no result, or one request
goes out. -/
def Asked {α : Type} (framed : Except Cause Request) (line : Line)
    (ended : Except Halt α × Line) : Prop :=
  (ended.2.network.sent = line.network.sent ∧ ∃ halt, ended.1 = .error halt) ∨
    ∃ request id bytes, framed = .ok request ∧ request.encode id = .ok bytes ∧
      ended.2.network.sent = line.network.sent ++ [(line.connection.id.number, bytes)]

/-- Work that frames a request, sends it and sends nothing more has asked something. -/
theorem asked_check_send {framed : Except Cause Request}
    {next : Request → Option Response → Exchange α} (line : Line)
    (quiet : ∀ request response, Work.Keeps (·.network.sent) (next request response)) :
    Asked framed line ((do
      let request ← Exchange.check framed
      let response ← send request context
      next request response) line) := by
  -- A request that cannot be framed is not sent, and one that is sent is sent once.
  cases framed with
  | error cause => exact .inl ⟨rfl, _, rfl⟩
  | ok request =>
    have sent := sent_send request context line
    rw [Work.bind_apply, Exchange.check_ok]
    dsimp only
    rw [Work.bind_apply]
    rcases ended : send request context line with ⟨halt | response, middle⟩ <;> rw [ended] at sent
    · rcases sent with same | ⟨id, bytes, encoded, posted⟩
      · exact .inl ⟨same, halt, rfl⟩
      · exact .inr ⟨request, id, bytes, rfl, encoded, posted⟩
    · -- An exchange that ends well has put the bytes on the wire.
      obtain ⟨id, bytes, encoded, posted⟩ := send_ok ended
      exact .inr ⟨request, id, bytes, rfl, encoded, (quiet request response middle).trans posted⟩

variable {write : Write} {line : Line}

/-- A write command is all that is sent to a server that takes it. -/
theorem asked_runCommand (write : Write) (line : Line) :
    Asked (write.command.request line.connection.description) line (write.runCommand line) := by
  unfold runCommand
  rw [Work.bind_apply, Work.get_apply]
  refine asked_check_send line fun request response => ?_
  cases response with
  | none => exact .pure _
  | some response =>
    exact .bind (Exchange.keeps_replyDocument (fun _ _ => rfl) _ _) fun _ => Exchange.keeps_check _

/-- A legacy request is all that is sent before the question. -/
theorem asked_sendLegacy (write : Write) (line : Line) :
    Asked write.legacyRequest line (write.sendLegacy line) :=
  asked_check_send line fun _ _ => .pure _

/-- The question is all that is sent after that. -/
theorem asked_confirmLegacy (write : Write) (line : Line) :
    Asked (write.lastErrorCommand.request line.connection.description) line
      (write.confirmLegacy line) := by
  unfold confirmLegacy
  rw [Work.bind_apply, Work.get_apply]
  refine asked_check_send line fun request response => ?_
  cases response with
  | none => exact .throw _
  | some response =>
    exact .bind (Exchange.keeps_replyDocument (fun _ _ => rfl) _ _) fun _ =>
      .bind (Exchange.keeps_check _) fun _ => .pure _

/-- What goes out for a legacy write: its request, and then the question how it went, if that is
wanted. A write that is acknowledged has no result before the question went out. -/
inductive Posted (write : Write) (description : ConnectionDescription)
    (result : Except Halt WriteResult) : List Bytes → Prop where
  | unsent (failed : ∃ halt, result = .error halt) : Posted write description result []
  | alone {request : Request} {id : Int32} {bytes : Bytes}
    (framed : write.legacyRequest = .ok request) (encoded : request.encode id = .ok bytes)
    (unasked : write.concern.isAcknowledged = true → ∃ halt, result = .error halt) :
    Posted write description result [bytes]
  | asked {request question : Request} {id other : Int32} {bytes asked : Bytes}
    (framed : write.legacyRequest = .ok request) (encoded : request.encode id = .ok bytes)
    (acknowledged : write.concern.isAcknowledged = true)
    (formed : write.lastErrorCommand.request description = .ok question)
    (coded : question.encode other = .ok asked) : Posted write description result [bytes, asked]

/-- A legacy write sends its request and the question, as far as it gets. -/
theorem posted_runLegacy (write : Write) (line : Line) :
    ∃ messages, line.Sends (write.runLegacy line).2 messages ∧
      write.Posted line.connection.description (write.runLegacy line).1 messages := by
  have first := write.asked_sendLegacy line
  unfold runLegacy
  rw [Work.bind_apply]
  rcases posting : write.sendLegacy line with ⟨halt | _, middle⟩ <;> rw [posting] at first <;>
    dsimp only
  · -- The question is asked only when the request before it has ended well.
    rcases first with ⟨same, -⟩ | ⟨request, id, bytes, framed, encoded, posted⟩
    · exact ⟨[], line.sends_nil same, .unsent ⟨halt, rfl⟩⟩
    · exact ⟨[bytes], posted, .alone framed encoded fun _ => ⟨halt, rfl⟩⟩
  · rcases first with ⟨-, halt, failed⟩ | ⟨request, id, bytes, framed, encoded, posted⟩
    · cases failed
    · cases acknowledged : write.concern.isAcknowledged with
      | false => exact ⟨[bytes], posted, .alone framed encoded fun wanted => by simp_all⟩
      | true =>
        -- After the request, the line is connected as before.
        obtain ⟨name, description⟩ := partner_sendLegacy posting
        rcases write.asked_confirmLegacy middle with
          ⟨same, halted⟩ | ⟨question, other, asked, formed, coded, sent⟩
        · exact ⟨[bytes], same.trans posted, .alone framed encoded fun _ => halted⟩
        · rw [description] at formed
          refine ⟨[bytes, asked], ?_, .asked framed encoded acknowledged formed coded⟩
          rw [if_pos rfl, Line.Sends, sent, posted, name]
          simp

/-- What goes out to a server of write commands: a command that asks for what the write asks for, or
nothing. -/
inductive CommandOut (write : Write) : Except Halt WriteResult → List Bytes → Prop where
  | unsent {halt : Halt} : CommandOut write (.error halt) []
  | sent {result : Except Halt WriteResult} {command : Bytes} {mandate : Mandate}
    (meant : write.mandate? = some mandate) (read : Mandate.ofCommand? command = some mandate) :
    CommandOut write result [command]

/-- What goes out to an older server: a legacy request and a question, which together ask for what
the write asks for. The question may fail to go out, and then there is no result. -/
inductive LegacyOut (write : Write) : Except Halt WriteResult → List Bytes → Prop where
  | unsent {halt : Halt} : LegacyOut write (.error halt) []
  | unasked {halt : Halt} {posted : Bytes} {task : WriteTask} (meant : write.task? = some task)
    (read : legacyTask? posted = some (write.target.text, task)) :
    LegacyOut write (.error halt) [posted]
  | sent {result : Except Halt WriteResult} {posted asked : Bytes} {mandate : Mandate}
    (meant : write.mandate? = some mandate)
    (read : Mandate.ofLegacy? posted asked = some mandate) : LegacyOut write result [posted, asked]

/-- A run over a line to a server of write commands sends a command, or nothing. -/
theorem commandOut_run (write : Write) {line : Line}
    (commands : line.connection.description.hasWriteCommands = true) :
    ∃ messages, line.Sends (write.run line).2 messages ∧
      CommandOut write (write.run line).1 messages := by
  -- A write that is judged to be refused has sent nothing.
  rw [run_apply]
  cases write.judge line.connection.description with
  | error cause => exact ⟨[], line.sends_nil rfl, .unsent⟩
  | ok _ =>
    dsimp only
    rw [if_pos commands]
    rcases write.asked_runCommand line with
      ⟨same, halt, failed⟩ | ⟨request, id, bytes, framed, encoded, posted⟩
    · refine ⟨[], line.sends_nil same, ?_⟩
      rw [failed]
      exact .unsent
    · obtain ⟨mandate, meant, read⟩ := ofCommand?_command framed encoded
      exact ⟨[bytes], posted, .sent meant read⟩

/-- A run over a line to an older server sends a legacy request and a question, as far as it gets.
-/
theorem legacyOut_run (write : Write) {line : Line}
    (acknowledged : write.concern.isAcknowledged = true)
    (legacy : line.connection.description.hasWriteCommands = false) :
    ∃ messages, line.Sends (write.run line).2 messages ∧
      LegacyOut write (write.run line).1 messages := by
  -- Two requests go out, and after the first of them the line is connected as before.
  rw [run_apply]
  cases write.judge line.connection.description with
  | error cause => exact ⟨[], line.sends_nil rfl, .unsent⟩
  | ok _ =>
    simp only [legacy, Bool.false_eq_true, if_false]
    obtain ⟨messages, sends, posted⟩ := write.posted_runLegacy line
    refine ⟨messages, sends, ?_⟩
    cases posted with
    | unsent failed =>
      obtain ⟨halt, failed⟩ := failed
      rw [failed]
      exact .unsent
    | alone framed encoded unasked =>
      obtain ⟨task, meant, read⟩ := legacyTask?_legacyRequest framed encoded
      obtain ⟨halt, failed⟩ := unasked acknowledged
      rw [failed]
      exact .unasked meant read
    | asked framed encoded _ formed coded =>
      have queries := ConnectionDescription.hasMessages_of_legacy legacy
      obtain ⟨mandate, meant, read⟩ := ofLegacy?_question queries framed encoded formed coded
      exact .sent meant read

/-- An acknowledged write asks the same of servers of either age: a write command is read as a
write to the same collection, with the same documents, the same choices and the same options, as the
legacy request and the question that take its place. -/
theorem dialects_agree (write : Write) (newer older : Line)
    (acknowledged : write.concern.isAcknowledged = true)
    (commands : newer.connection.description.hasWriteCommands = true)
    (legacy : older.connection.description.hasWriteCommands = false) :
    (∃ messages, newer.Sends (write.run newer).2 messages ∧
      CommandOut write (write.run newer).1 messages) ∧
    ∃ messages, older.Sends (write.run older).2 messages ∧
      LegacyOut write (write.run older).1 messages :=
  ⟨write.commandOut_run commands, write.legacyOut_run acknowledged legacy⟩

/-- An update of all that a filter picks, to be journaled by most members, goes out as one command
or as two legacy messages, with the same meaning. -/
theorem dialects_agree_update :
    let address : Address := default
    let lineOf (wireVersion : Int32) : Line :=
      { connection := .fresh ⟨address, 1⟩ { address, wireVersion } {}, network := {} }
    let write : Write :=
      { target := ⟨"db", "c"⟩
        statement :=
          .update [("a", .int32 1)] [("$set", .document [("b", .null)])] true true .operators
        concern := { members := some .majority, journal := some true } }
    write.concern.isAcknowledged = true ∧
      (lineOf 6).connection.description.hasWriteCommands = true ∧
      (lineOf 1).connection.description.hasWriteCommands = false ∧
      ∃ command posted asked mandate,
        (write.run (lineOf 6)).2.network.sent = [(1, command)] ∧
        (write.run (lineOf 1)).2.network.sent = [(1, posted), (1, asked)] ∧
        Mandate.ofCommand? command = some mandate ∧
        Mandate.ofLegacy? posted asked = some mandate := by
  intro address lineOf write
  refine ⟨rfl, rfl, rfl, ?_⟩
  obtain ⟨⟨commands, newer, out⟩, messages, older, legacy⟩ :=
    dialects_agree write (lineOf 6) (lineOf 1) rfl rfl rfl
  have one : (write.run (lineOf 6)).2.network.sent.length = 1 := by decide +kernel
  have two : (write.run (lineOf 1)).2.network.sent.length = 2 := by decide +kernel
  rw [show (write.run (lineOf 6)).2.network.sent = _ from newer] at one ⊢
  rw [show (write.run (lineOf 1)).2.network.sent = _ from older] at two ⊢
  -- The counts of what has gone out leave one way for either run.
  generalize (write.run (lineOf 6)).1 = result at out
  generalize (write.run (lineOf 1)).1 = ended at legacy
  cases out with
  | unsent => cases one
  | @sent _ command mandate meant read =>
    cases legacy with
    | unsent => cases two
    | unasked => cases two
    | @sent _ posted asked other again legacy =>
      obtain rfl : mandate = other := Option.some.inj (meant.symm.trans again)
      exact ⟨command, posted, asked, mandate, rfl, rfl, read, legacy⟩

end Runs

end Write

end DocWire
