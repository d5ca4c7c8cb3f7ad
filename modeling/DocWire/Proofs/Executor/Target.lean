import DocWire.Proofs.Cursor.Inquiry
import DocWire.Proofs.Cursor.Kill
import DocWire.Proofs.Executor.Basic
import DocWire.Proofs.Text.Names

/-! Which collection a message is about, as the server reads it off the message: a legacy request
bears its full name, and a command tells the database and the collection apart. -/

namespace DocWire

/-- The collection whose full name a request bears. -/
def Request.target? : Request → Option Namespace
  | query content => some content.target
  | getMore content => some content.target
  | insert content => some content.target
  | update content => some content.target
  | delete content => some content.target
  | message _ | killCursors _ => none

/-- The field in which a command of a name tells the collection that it is about. -/
def collectionField? (name : String) : Option String :=
  -- To go on with a cursor, the first field has to tell the cursor.
  if name = "getMore" then some "collection"
  else if name ∈ ["insert", "update", "delete", "find", "killCursors"] then some name
  else none

/-- The collection that a command is about; its first field names the command. -/
def RawDocument.collectionIn? (body : RawDocument) : Option String := do
  let first ← (scanAll body.elements).1.head?
  body.textIn? (← collectionField? first.key)

/-- The full name in a legacy request; it stands behind one word of the body. -/
def fullName? (bytes : Bytes) : Option String := do
  match ← opened? bytes with
  | (.query, _, body) | (.getMore, _, body) | (.insert, _, body) | (.update, _, body)
  | (.delete, _, body) =>
    let (name, _) ← (readZeroTerminated (body.drop 4)).toOption
    return name
  | _ => none

namespace Namespace

/-- The collection that a legacy request is about, as its full name is read. -/
def toldInFull? (bytes : Bytes) : Option Namespace := (fullName? bytes).bind parse?

/-- The collection that a command is about, of which the database is told apart. -/
def toldApart? (bytes : Bytes) : Option Namespace := do
  let (database, document) ← commandIn? bytes
  -- Routers find the command beside the preference.
  let body := (← document.documentOrNone? "$query").getD document
  return ⟨database, ← body.collectionIn?⟩

/-- The commands to a database are a proper collection of it. -/
theorem Proper.ofCommands {ns : Namespace} (proper : ns.Proper) :
    (Namespace.ofCommands ns.database).Proper :=
  ⟨proper.database, proper.undotted, by simp [Namespace.ofCommands]⟩

end Namespace

section Legacy

variable {request : Request} {target : Namespace} {id : Int32} {body bytes : Bytes}

/-- Behind one word, a request bears the full name of its collection and a zero. -/
theorem Request.named_encodeBody (encoded : request.encodeBody = .ok body)
    (named : request.target? = some target) :
    ∃ word rest, word.length = 4 ∧ '\x00' ∉ target.text.toList ∧
      body = word ++ (Bytes.ofString target.text ++ [0] ++ rest) := by
  cases request with
  | message content => cases named
  | killCursors content => cases named
  | _ =>
    -- The word holds flags, or is reserved.
    cases named
    obtain ⟨name, spelled, encoded⟩ := Work.except_bind_ok encoded
    obtain ⟨clean, rfl⟩ := encodeNamespace_ok spelled
    cases encoded
    refine ⟨_, _, ?_, clean, by simp only [List.append_assoc]; rfl⟩
    simp [Bytes.ofUInt32, Bytes.length_ofNat, reserved]

/-- The full name of the collection of a request is read off its bytes. -/
theorem fullName?_encode (encoded : request.encode id = .ok bytes)
    (named : request.target? = some target) : fullName? bytes = some target.text := by
  obtain ⟨length, body, coded, header, -⟩ := Write.opened?_encode encoded
  -- Behind the header stands one word, and then the full name.
  obtain ⟨word, rest, long, clean, rfl⟩ := Request.named_encodeBody coded named
  have read := @Write.readZeroTerminated_append rest _ clean
  cases request with
  | message content => cases named
  | killCursors content => cases named
  | _ =>
    simp only [fullName?, header, Request.opCode, List.drop_left' long, read, Except.toOption,
      Option.bind_eq_bind, Option.bind_some, Option.pure_def]

/-- A proper collection is read off the bytes of each legacy request that bears its full name. -/
theorem Namespace.toldInFull?_encode (encoded : request.encode id = .ok bytes)
    (named : request.target? = some target) (proper : target.Proper) :
    Namespace.toldInFull? bytes = some target := by
  rw [toldInFull?, fullName?_encode encoded named, Option.bind_some]
  exact parse?_eq_some.mpr ⟨proper, rfl⟩

/-- Cursors are given up without a word about their collection. -/
theorem Namespace.toldInFull?_killCursors {content : LegacyKillCursors}
    (encoded : (Request.killCursors content).encode id = .ok bytes) :
    Namespace.toldInFull? bytes = none := by
  obtain ⟨length, body, coded, header, -⟩ := Write.opened?_encode encoded
  simp only [toldInFull?, fullName?, header, Request.opCode, Option.bind_eq_bind, Option.bind_some,
    Option.bind_none]

end Legacy

/-- A document spells a command of a name about a collection, which is told in a field of it. Other
fields do not matter, unless routers would take one for the command. -/
structure Document.About (document : Document) (name field collection : String) : Prop where
  first : document.firstKey? = some name
  known : collectionField? name = some field
  told : document.get? field = some (.string collection)
  bare : document.get? "$query" = none
  plain : ∀ field ∈ document, field.2.kind.isPlain = true

namespace Document.About

variable {document : Document} {raw : RawDocument} {name field collection : String}

/-- No collection is told where the database stands, or the preference. -/
theorem apart (about : document.About name field collection) :
    "$db" ≠ field ∧ "$readPreference" ≠ field := by
  have known := about.known
  unfold collectionField? at known
  -- The collection is told under a name of its own or that of the command, which is none of these.
  split at known
  · cases known
    decide
  · split at known
    · rename_i among
      cases known
      constructor <;> rintro rfl <;> exact absurd among (by decide)
    · cases known

/-- A field of another name may be put in. -/
theorem insert (about : document.About name field collection) {key : String} {value : Value}
    (other : key ≠ field) (bare : key ≠ "$query") (plain : value.kind.isPlain = true) :
    (document.insert key value).About name field collection where
  first := Document.firstKey?_insert _ _ _ about.first
  known := about.known
  told := (Document.get?_insert_of_ne _ _ _ other).trans about.told
  bare := (Document.get?_insert_of_ne _ _ _ bare).trans about.bare
  plain := Document.plain_insert about.plain plain

/-- The collection is read off the bytes. -/
theorem collectionIn?_eq (about : document.About name field collection)
    (written : document.Written raw) : raw.collectionIn? = some collection := by
  obtain ⟨element, head, same⟩ := Option.map_eq_some_iff.mp
    (written.head?_scanAll.trans about.first)
  simp only [RawDocument.collectionIn?, head, same, about.known, written.textIn?_eq about.told,
    Option.bind_eq_bind, Option.bind_some]

/-- The command is not looked for in a field of the document. -/
theorem documentOrNone?_eq (about : document.About name field collection)
    (written : document.Written raw) : raw.documentOrNone? "$query" = some none := by
  have absent : document.get? "$query" = (none : Option Document).map .document := about.bare
  obtain ⟨inner, none, found⟩ := written.documentOrNone?_eq absent
  cases none
  exact found

end Document.About

section Commands

variable {command : Command} {description : ConnectionDescription} {request : Request} {id : Int32}
  {bytes : Bytes} {name field collection : String}

/-- A message of a command about a collection is about the same collection. -/
theorem Command.about_messageBody (about : command.body.About name field collection)
    (type : ServerType) : (command.messageBody type).About name field collection := by
  -- What is put into the body comes behind the first field, under other names.
  have stamped : (command.body.insert "$db" (.string command.database)).About name field
    collection := about.insert about.apart.1 (by decide) rfl
  unfold Command.messageBody
  dsimp only
  split
  · split
    · exact stamped
    · exact stamped.insert about.apart.2 (by decide) rfl
  · exact stamped

/-- A command about a collection tells it in either framing, and its database with it. -/
theorem Namespace.toldApart?_encode (about : command.body.About name field collection)
    (alone : command.sequences = []) (framed : command.request description = .ok request)
    (encoded : request.encode id = .ok bytes) :
    Namespace.toldApart? bytes = some ⟨command.database, collection⟩ := by
  -- A message has the collection in its body. An older query has it in its command, which is
  -- wrapped where a preference goes with it and bare where none does.
  cases messages : description.hasMessages with
  | true =>
    have body := command.about_messageBody about description.type
    obtain ⟨raw, found, written⟩ :=
      Write.commandIn?_framedMessage alone body.plain messages framed encoded
    simp only [toldApart?, found, body.documentOrNone?_eq written, body.collectionIn?_eq written,
      Option.bind_eq_bind, Option.bind_some, Option.getD_none, Option.pure_def]
  | false =>
    rcases command.queryBody_cases command.body description.type with bare | ⟨preference, wrapped⟩
    · obtain ⟨raw, found, written⟩ := Write.commandIn?_framedQuery alone
        (by rw [bare]; exact about.plain) messages framed encoded
      rw [bare] at written
      simp only [toldApart?, found, about.documentOrNone?_eq written,
        about.collectionIn?_eq written, Option.bind_eq_bind, Option.bind_some, Option.getD_none,
        Option.pure_def]
    · obtain ⟨raw, found, written⟩ := Write.commandIn?_framedQuery alone
        (by rw [wrapped]; simp [Command.wrapped, Value.kind, ElementKind.isPlain])
        messages framed encoded
      rw [wrapped] at written
      obtain ⟨inner, coded, small, there⟩ :=
        written.document_eq (rfl : Document.get? _ "$query" = _)
      have body := about.collectionIn?_eq ⟨about.plain, coded, small⟩
      simp only [toldApart?, found, RawDocument.documentOrNone?, there, body, Option.bind_eq_bind,
        Option.bind_some, Option.getD_some, Option.pure_def]

theorem Write.about_body (write : Write) : write.body.About write.statement.name
    write.statement.name write.target.collection := by
  obtain ⟨spelled, -⟩ := write.spelled_body
  refine ⟨spelled.first, ?_, spelled.collection, ?_, spelled.plain⟩
  · cases write.statement <;> rfl
  · obtain ⟨target, statement, ordered, concern, context⟩ := write
    cases empty : concern.isEmpty <;> cases statement <;>
      simp [Write.body, empty, Statement.name, Statement.identifier, Document.ofFields,
        Document.extend, Document.insert, Document.get?]

theorem Query.about_body (query : Query) :
    query.body.About "find" "find" query.target.collection where
  first := rfl
  known := rfl
  told := by simp [Query.body, Document.get?_cons]
  bare := query.get?_body.2
  plain := (QueryOptions.told_body query).plain

theorem GetMore.about_body (request : GetMore) :
    request.body.About "getMore" "collection" request.target.collection where
  first := rfl
  known := rfl
  told := by simp [GetMore.body, Document.get?_cons]
  bare := by
    unfold GetMore.body
    split <;> simp [Document.get?_cons, Document.get?_nil]
  plain := by
    unfold GetMore.body
    split <;> simp [Value.kind, ElementKind.isPlain]

theorem KillCursors.about_body (request : KillCursors) :
    request.body.About "killCursors" "killCursors" request.target.collection where
  first := rfl
  known := rfl
  told := by simp [KillCursors.body, Document.get?_cons]
  bare := by simp [KillCursors.body, Document.get?_cons, Document.get?_nil]
  plain := by simp [KillCursors.body, Value.kind, ElementKind.isPlain]

end Commands

/-- What has gone out over a line, until it was what it is now, is read message by message as the
items of a list in their order, as far as it goes. -/
def Line.Reads {τ : Type} (line after : Line) (view : Bytes → τ) (items : List τ) : Prop :=
  ∃ messages, line.Sends after messages ∧ messages.map view <+: items

namespace Line

variable {α τ : Type} {line after later : Line} {view : Bytes → τ} {item : τ} {items : List τ}

theorem reads_nothing (quiet : after.network.sent = line.network.sent) :
    line.Reads after view items :=
  ⟨[], line.sends_nil quiet, List.nil_prefix⟩

theorem reads_one {bytes : Bytes} (posted : line.Sends after [bytes]) (read : view bytes = item) :
    line.Reads after view (item :: items) :=
  ⟨[bytes], posted, items, by rw [List.map_singleton, read, List.singleton_append]⟩

theorem Reads.of_sent (reads : line.Reads after view items)
    (same : later.network.sent = after.network.sent) : line.Reads later view items := by
  obtain ⟨messages, sent, read⟩ := reads
  exact ⟨messages, same.trans sent, read⟩

/-- When as many messages have gone out as there are items, every item is read. -/
theorem Reads.complete (reads : line.Reads after view items)
    (many : after.network.sent.length = line.network.sent.length + items.length) :
    ∃ messages, line.Sends after messages ∧ messages.map view = items := by
  obtain ⟨messages, sent, front⟩ := reads
  refine ⟨messages, sent, front.eq_of_length ?_⟩
  rw [sent, List.length_append, List.length_map] at many
  rw [List.length_map]
  omega

/-- Who asks something sends one message that asks it, if any. -/
theorem reads_asked {framed : Except Cause Request} {ended : Except Halt α × Line}
    (asked : Write.Asked framed line ended)
    (read : ∀ request id bytes, framed = .ok request → request.encode id = .ok bytes →
      view bytes = item) : line.Reads ended.2 view (item :: items) := by
  rcases asked with ⟨same, -⟩ | ⟨request, id, bytes, formed, encoded, posted⟩
  · exact reads_nothing same
  · exact reads_one posted (read request id bytes formed encoded)

end Line

namespace Write

variable {write : Write} {request : Request} {line : Line}

theorem target?_legacyRequest (framed : write.legacyRequest = .ok request) :
    request.target? = some write.target := by
  cases legacyForm_of_framed framed <;> rfl

/-- The question how a write went is put to the commands of the database. -/
theorem target?_question {description : ConnectionDescription}
    (queries : description.hasMessages = false)
    (framed : write.lastErrorCommand.request description = .ok request) :
    request.target? = some (.ofCommands write.target.database) := by
  obtain ⟨raw, -, rfl⟩ := request_query rfl queries framed
  rfl

/-- A legacy write bears the full name of its collection, and the question after it that of the
commands of its database. -/
theorem reads_runLegacy (proper : write.target.Proper)
    (legacy : line.connection.description.hasWriteCommands = false) :
    line.Reads (write.runLegacy line).2 Namespace.toldInFull?
      [some write.target, some (.ofCommands write.target.database)] := by
  -- What is posted is nothing, the write alone, or the write and the question after it.
  obtain ⟨messages, sends, posted⟩ := write.posted_runLegacy line
  refine ⟨messages, sends, ?_⟩
  have told {request : Request} {id : Int32} {bytes : Bytes}
      (framed : write.legacyRequest = .ok request) (encoded : request.encode id = .ok bytes) :=
    Namespace.toldInFull?_encode encoded (target?_legacyRequest framed) proper
  cases posted with
  | unsent => exact List.nil_prefix
  | alone framed encoded => simp [told framed encoded]
  | asked framed encoded _ formed coded =>
    have queries := ConnectionDescription.hasMessages_of_legacy legacy
    have question := Namespace.toldInFull?_encode coded (target?_question queries formed)
      proper.ofCommands
    simp [told framed encoded, question]

/-- A write is one command about its collection, or a legacy write and perhaps a question. -/
theorem reads_run (proper : write.target.Proper) :
    if line.connection.description.hasWriteCommands then
      line.Reads (write.run line).2 Namespace.toldApart? [some write.target]
    else line.Reads (write.run line).2 Namespace.toldInFull?
      [some write.target, some (.ofCommands write.target.database)] := by
  rw [run_apply]
  cases write.judge line.connection.description with
  | error cause => split <;> exact Line.reads_nothing rfl
  | ok _ =>
    dsimp only
    split
    · exact Line.reads_asked (write.asked_runCommand line) fun request id bytes framed encoded =>
        Namespace.toldApart?_encode write.about_body rfl framed encoded
    · -- An older server knows no such command, so what it is sent bears full names.
      rename_i legacy
      exact reads_runLegacy proper (by simpa using legacy)

end Write

/-- Who asks once, with a command or with a legacy request for the same collection, sends one
message about the collection at most. -/
theorem Line.reads_dialects {α : Type} {commands : Bool} {command : Command} {name field : String}
    {description : ConnectionDescription} {legacy : Except Cause Request} {target : Namespace}
    {line : Line} {ended : Except Halt α × Line} (proper : target.Proper)
    (about : command.body.About name field target.collection)
    (within : command.database = target.database) (alone : command.sequences = [])
    (named : ∀ request, legacy = .ok request → request.target? = some target)
    (asked : Write.Asked (if commands then command.request description else legacy) line ended) :
    if commands then line.Reads ended.2 Namespace.toldApart? [some target]
    else line.Reads ended.2 Namespace.toldInFull? [some target] := by
  cases commands with
  | true =>
    refine Line.reads_asked asked fun request id bytes framed encoded => ?_
    rw [Namespace.toldApart?_encode about alone framed encoded, within]
  | false =>
    exact Line.reads_asked asked fun request id bytes framed encoded =>
      Namespace.toldInFull?_encode encoded (named request framed) proper

/-- A query is one message about its collection. -/
theorem Query.reads_run {α : Type} {query : Query} (proper : query.target.Proper)
    (decoder : Decoder α) (line : Line) :
    if line.connection.description.hasFindCommand then
      line.Reads (query.run decoder line).2 Namespace.toldApart? [some query.target]
    else line.Reads (query.run decoder line).2 Namespace.toldInFull? [some query.target] := by
  refine Line.reads_dialects proper query.about_body rfl rfl ?_ (query.asked_run decoder line)
  intro request framed
  obtain ⟨body, -, framed⟩ := Work.except_bind_ok framed
  obtain ⟨fields, -, framed⟩ := Work.except_bind_ok framed
  cases framed
  rfl

/-- A request that is sent is all that is sent, if nothing more is sent after it. -/
theorem asked_send {α : Type} {request : Request} {context : Correlation}
    {next : Option Response → Exchange α} (line : Line)
    (quiet : ∀ response, Work.Keeps (·.network.sent) (next response)) :
    Write.Asked (.ok request) line ((send request context >>= next) line) :=
  Write.asked_check_send line fun _ response => quiet response

namespace GetMore

variable {α : Type}

/-- The request in the dialect of the server. -/
def opening (request : GetMore) (description : ConnectionDescription) : Except Cause Request :=
  if description.hasFindCommand then request.command.request description
  else .ok request.legacyRequest

/-- To explain how work ends is to send nothing. -/
theorem asked_explaining {framed : Except Cause Request} {line : Line} {work : Exchange α}
    (cursor : ServerCursor) (asked : Write.Asked framed line (work line)) :
    Write.Asked framed line (explaining cursor work line) := by
  unfold explaining
  rcases ended : work line with ⟨halt | value, after⟩ <;> rw [ended] at asked
  · rcases asked with ⟨same, -⟩ | sent
    · exact .inl ⟨same, _, rfl⟩
    · exact .inr sent
  · exact asked

/-- To go on with a cursor is to ask once, and to read the answer. -/
theorem asked_run (request : GetMore) (decoder : Decoder α) (line : Line) :
    Write.Asked (request.opening line.connection.description) line (request.run decoder line) := by
  have told (event : Event) : Work.Keeps (·.network.sent) (Exchange.emit event) := fun _ => rfl
  unfold run opening
  rw [Work.bind_apply, Work.get_apply]
  dsimp only
  rw [Work.bind_apply]
  -- What is told of the beginning changes nothing that a request depends on.
  let begun := line.emit (.gettingMore line.connection.id request.cursor request.target)
  show Write.Asked _ begun ((if _ then _ else _ : Exchange (Batch α)) begun)
  split
  · -- What is left after the request only reads the reply.
    refine Write.Asked.bind ?_ fun batch => .bind (told _) fun _ => .pure _
    unfold runCommand
    rw [Work.bind_apply, Work.get_apply]
    exact (asked_explaining _ (asked_sendCommand _ _ begun)).bind fun reply =>
      (still_readBatch reply _ _ _).part Prod.snd
  · refine Write.Asked.bind ?_ fun batch => .bind (told _) fun _ => .pure _
    unfold runLegacy
    rw [Work.bind_apply, Work.get_apply]
    exact asked_send begun fun response => .bind (Exchange.keeps_check _) fun reply =>
      .bind ((still_classify reply _ _).part Prod.snd) fun _ => .pure _

/-- To go on with a cursor is one message about the collection of the cursor. -/
theorem reads_run {request : GetMore} (proper : request.target.Proper) (decoder : Decoder α)
    (line : Line) :
    if line.connection.description.hasFindCommand then
      line.Reads (request.run decoder line).2 Namespace.toldApart? [some request.target]
    else line.Reads (request.run decoder line).2 Namespace.toldInFull? [some request.target] := by
  refine Line.reads_dialects proper request.about_body rfl rfl ?_ (request.asked_run decoder line)
  intro legacy framed
  cases framed
  rfl

end GetMore

/-- To give cursors up is to send one message, if there are any: a command that tells their
collection, or a legacy request that does not. -/
theorem KillCursors.reads_run (asked : KillCursors) (line : Line) :
    if line.connection.description.hasFindCommand then
      line.Reads (asked.run line).2 Namespace.toldApart? [some asked.target]
    else line.Reads (asked.run line).2 Namespace.toldInFull? [none] := by
  -- No cursors are no message, in either dialect.
  by_cases some : asked.cursors = []
  · rw [run_empty some]
    split <;> exact Line.reads_nothing rfl
  split
  · rename_i commands
    rw [run_command some commands, runCommand_eq_settle]
    -- What the reply says of the cursors is settled after the message has gone out.
    have sent := asked_sendCommand asked.command asked.context line
    refine (Line.reads_asked sent fun request id bytes framed encoded => ?_).of_sent
      (congrArg Prod.snd (asked.still_settle _ _))
    exact Namespace.toldApart?_encode asked.about_body rfl framed encoded
  · rename_i legacy
    rw [run_legacy some (by simpa using legacy)]
    refine Line.reads_asked (asked_send line fun _ => .pure _) ?_
    intro request id bytes framed encoded
    cases framed
    exact Namespace.toldInFull?_killCursors encoded

namespace Executor

variable {α : Type}

/-- The collection that an operation is about. A command that the caller spells may be about
anything. -/
def target? : Executor α → Option Namespace
  | write made => some made.target
  | query asked _ => some asked.target
  | getMore asked _ => some asked.target
  | killCursors asked => some asked.target
  | command .. => none

/-- Whether the operation is a command to a server. -/
def takesCommand (executor : Executor α) (description : ConnectionDescription) : Bool :=
  match executor with
  | write _ => description.hasWriteCommands
  | query .. | getMore .. | killCursors _ => description.hasFindCommand
  | command .. => true

/-- The collections whose full names the messages of the operation bear where it is no command.
After a write, its outcome is asked of the commands of the database; and cursors are given up
without a name. -/
def namedInFull : Executor α → List (Option Namespace)
  | write made => [some made.target, some (.ofCommands made.target.database)]
  | query asked _ => [some asked.target]
  | getMore asked _ => [some asked.target]
  | killCursors _ => [none]
  | command .. => []

/-- As a command, an operation sends one message at most, which tells its collection; and where it
is no command, its messages bear the full names that they are to bear. -/
theorem reads_run {executor : Executor α} {target : Namespace}
    (about : executor.target? = some target) (proper : target.Proper) (line : Line) :
    if executor.takesCommand line.connection.description then
      line.Reads (executor.run line).2 Namespace.toldApart? [some target]
    else line.Reads (executor.run line).2 Namespace.toldInFull? executor.namedInFull := by
  cases executor with
  | write made =>
    cases about
    exact Write.reads_run proper
  | query asked decoder =>
    cases about
    exact Query.reads_run proper decoder line
  | getMore asked decoder =>
    cases about
    exact GetMore.reads_run proper decoder line
  | killCursors asked =>
    cases about
    exact asked.reads_run line
  | command rule call decoder => cases about

end Executor

/-- Just the full names of proper collections are read as namespaces, each as the collection that it
was written for. So each legacy request that bears the full name of a proper collection is about
that collection and no other; and whichever operation is run, the same database and the same
collection are told apart where it is a command, and in one name where it is not. -/
theorem Namespace.full_names_tell :
    (∀ text ns, parse? text = some ns ↔ ns.Proper ∧ ns.text = text) ∧
    (∀ (request : Request) (id : Int32) (bytes : Bytes) (target : Namespace),
      request.encode id = .ok bytes → request.target? = some target → target.Proper →
      toldInFull? bytes = some target) ∧
    ∀ {α : Type} (executor : Executor α) (line : Line) (target : Namespace),
      executor.target? = some target → target.Proper →
      if executor.takesCommand line.connection.description then
        line.Reads (executor.run line).2 toldApart? [some target]
      else line.Reads (executor.run line).2 toldInFull? executor.namedInFull := by
  refine ⟨fun text ns => parse?_eq_some, ?_, ?_⟩
  · intro request id bytes target encoded named proper
    exact toldInFull?_encode encoded named proper
  · intro α executor line target about proper
    exact Executor.reads_run about proper line

/-- The name of a collection may have dots in it: an older server reads the same from a write and
from a question for its outcome as newer ones from a command, in either framing. -/
theorem Namespace.full_names_tell_dotted :
    let target : Namespace := ⟨"db", "system.users"⟩
    let lineOf (wireVersion : Int32) : Line :=
      { connection := .fresh ⟨default, 1⟩ { address := default, wireVersion } {}, network := {} }
    let write : Write := { target, statement := .insert [("_id", .int32 0)] }
    target.Proper ∧ parse? "db.system.users" = some target ∧
      (∃ request bytes, write.legacyRequest = .ok request ∧ request.target? = some target ∧
        request.encode 1 = .ok bytes ∧ toldInFull? bytes = some target) ∧
      (∃ posted asked, (write.run (lineOf 1)).2.network.sent = [(1, posted), (1, asked)] ∧
        toldInFull? posted = some target ∧ toldInFull? asked = some ⟨"db", "$cmd"⟩) ∧
      ∀ wireVersion ∈ [3, 21], ∃ command,
        (write.run (lineOf wireVersion)).2.network.sent = [(1, command)] ∧
          toldApart? command = some target := by
  intro target lineOf write
  obtain ⟨names, requests, runs⟩ := full_names_tell
  have proper : target.Proper := ⟨by decide, by decide, by decide⟩
  refine ⟨proper, (names "db.system.users" target).mpr ⟨proper, by decide⟩, ?_, ?_, ?_⟩
  · -- The general statement reads the request back; that there is one is seen by running the write.
    have framed : write.legacyRequest.isOk = true := by decide +kernel
    obtain ⟨request, framed⟩ := Work.ok_of_isOk framed
    have named := Write.target?_legacyRequest framed
    have written : (write.legacyRequest.bind (·.encode 1)).isOk = true := by decide +kernel
    rw [framed] at written
    obtain ⟨bytes, encoded⟩ := Work.ok_of_isOk written
    exact ⟨request, bytes, framed, named, encoded, requests request 1 bytes target encoded named
      proper⟩
  · -- Two messages have gone out, so the two names that are due are all told.
    have reads := runs (.write write) (lineOf 1) target rfl proper
    rw [if_neg (by decide)] at reads
    obtain ⟨messages, sends, read⟩ := reads.complete (by decide +kernel)
    obtain ⟨posted, _, rfl, first, read⟩ := List.map_eq_cons_iff.mp read
    obtain ⟨asked, _, rfl, second, read⟩ := List.map_eq_cons_iff.mp read
    cases List.map_eq_nil_iff.mp read
    exact ⟨posted, asked, sends, first, second⟩
  · intro wireVersion among
    -- Both servers take the write as a command, one as a query and one as a message, and one
    -- message goes out to each.
    have commands : [3, 21].all (fun wireVersion =>
        (Executor.write write).takesCommand (lineOf wireVersion).connection.description &&
          (write.run (lineOf wireVersion)).2.network.sent.length == 1) = true := by
      decide +kernel
    obtain ⟨takes, one⟩ := Bool.and_eq_true_iff.mp (List.all_eq_true.mp commands wireVersion among)
    have reads := runs (.write write) (lineOf wireVersion) target rfl proper
    rw [if_pos takes] at reads
    obtain ⟨messages, sends, read⟩ := reads.complete (eq_of_beq one)
    obtain ⟨command, _, rfl, told, read⟩ := List.map_eq_cons_iff.mp read
    cases List.map_eq_nil_iff.mp read
    exact ⟨command, sends, told⟩

end DocWire
