import DocWire.Proofs.Command.Embedding
import DocWire.Proofs.Operation.Concern

/-! Batches that are sent again: how long the query is that holds a batch, when a server takes it,
and what comes of trying again when it does not. The batch is cut by the size of a document alone,
so that nothing but the two limits themselves keeps its query within the size of a message. -/

namespace DocWire

section Queries

theorem nameLength_append (front back : String) :
    nameLength (front ++ back) = nameLength front + nameLength back := by
  simp only [nameLength, Bytes.ofString_eq_flatMap, String.toList_append, List.flatMap_append,
    List.length_append]

/-- How long the message of a query without a projection is, with its header. -/
def LegacyQuery.size (query : LegacyQuery) : Nat :=
  headerLength + (4 + (nameLength query.target.text + 1) + 4 + 4 + query.query.bytes.length)

/-- A query without a projection has a message within a limit exactly when its namespace has no zero
inside and its size is within the limit, whatever the id. -/
theorem LegacyQuery.fits_iff (query : LegacyQuery) (whole : query.fields = none) (id : Int32)
    (description : ConnectionDescription) :
    (∃ bytes, (Request.query query).encode id = .ok bytes ∧
        bytes.length ≤ description.messageBytes) ↔
      '\x00' ∉ query.target.text.toList ∧ query.size ≤ description.messageBytes := by
  rw [Request.encode, Request.encodeBody, LegacyQuery.encode, encodeNamespace, zeroTerminated?]
  -- A name with a zero in it cannot be written, whatever the limit.
  by_cases zero : '\x00' ∈ query.target.text.toList
  · simp [zero, refuse, bind, Except.bind]
  · simp only [zero, if_false, bind, Except.bind, pure, Except.pure, whole, Option.map_none,
      Option.getD_none, List.append_nil, not_false_eq_true, true_and]
    rw [frame_fits_iff _ _ _ description.messageBytes_le]
    simp only [List.length_append, Bytes.ofUInt32, Bytes.ofInt32, Bytes.length_ofNat,
      List.length_singleton, size, nameLength]

end Queries

namespace Command

variable {command : Command} {description : ConnectionDescription} {body : Document}
  {raw : RawDocument}

/-- What the wrapper for routers adds to a query: nothing where there is none, and no number where
the preference has no raw form. -/
def wrapperSize? (command : Command) (type : ServerType) : Option Nat :=
  match command.secondaryPreference with
  | some preference =>
    -- Two names with their tags, the preference, and the frame around all of it.
    if type = .mongos then
      (encodeFields? preference.toDocument).map fun fields => 8 + 17 + (fields.length + 5) + 5
    else some 0
  | none => some 0

/-- The wrapper holds the query and the preference, each under its name. -/
theorem encode_wrapped {preference : ReadPreference} {inner : Bytes}
    (encoded : body.encode = .ok raw) (told : encodeFields? preference.toDocument = some inner) :
    ∃ whole, (wrapped body preference).encode = .ok whole ∧
      whole.bytes.length = raw.bytes.length + (8 + 17 + (inner.length + 5) + 5) := by
  obtain ⟨bytes, fields, rfl⟩ := Document.encode_eq_ok.mp encoded
  have last : encodeFields? [("$readPreference", .document preference.toDocument)] = some
      (ElementKind.document.tag ::
        (Bytes.ofString "$readPreference" ++ [0] ++ enclosed inner ++ [])) :=
    encodeFields?_cons.mpr ⟨by decide, _, [], by rw [Value.encode?, told]; rfl, rfl, rfl⟩
  have both : encodeFields? (wrapped body preference) = some (ElementKind.document.tag ::
      (Bytes.ofString "$query" ++ [0] ++ enclosed bytes ++ (ElementKind.document.tag ::
        (Bytes.ofString "$readPreference" ++ [0] ++ enclosed inner ++ [])))) :=
    encodeFields?_cons.mpr ⟨by decide, _, _, by rw [Value.encode?, fields]; rfl, last, rfl⟩
  -- The two names, with what ends them and the tags, are what the wrapper adds besides its
  -- documents.
  have names : (Bytes.ofString "$query").length = 6 ∧
      (Bytes.ofString "$readPreference").length = 15 := by decide +kernel
  refine ⟨_, Document.encode_eq_ok.mpr ⟨_, both, rfl⟩, ?_⟩
  simp only [length_enclosed, List.length_cons, List.length_append, List.length_nil, names]
  omega

/-- A query is as much longer than its command as the wrapper takes. -/
theorem queryBody_size (command : Command) (encoded : body.encode = .ok raw) (type : ServerType) :
    (∃ whole wrapper, (command.queryBody body type).encode = .ok whole ∧
        command.wrapperSize? type = some wrapper ∧
        whole.bytes.length = raw.bytes.length + wrapper) ∨
      (command.wrapperSize? type = none ∧
        (command.queryBody body type).encode = badResponse .malformed) := by
  unfold queryBody wrapperSize?
  cases command.secondaryPreference with
  | none => exact .inl ⟨raw, 0, encoded, rfl, rfl⟩
  | some preference =>
    dsimp only
    split
    · -- Whether the wrapper has a raw form is a question of the preference alone.
      cases told : encodeFields? preference.toDocument with
      | none =>
        refine .inr ⟨rfl, ?_⟩
        simp only [wrapped, Document.encode, encodeFields?, Value.encode?, told, Option.map_none,
          Option.bind_eq_bind, Option.bind_none, Option.bind_fun_none]
      | some inner =>
        obtain ⟨whole, spelled, long⟩ := encode_wrapped encoded told
        exact .inl ⟨whole, _, spelled, rfl, long⟩
    · exact .inl ⟨raw, 0, encoded, rfl, rfl⟩

/-- How long the message of a query is whose document has this size. -/
def querySize (database : String) (size : Nat) : Nat :=
  headerLength + (4 + (nameLength database + 6) + 4 + 4 + size)

/-- The query that a command with this document goes out as. -/
def asQuery (command : Command) (whole : RawDocument) : LegacyQuery where
  flags := { secondaryOk := command.secondaryPreference.isSome }
  target := .ofCommands command.database
  toReturn := -1
  query := whole

/-- The message of a command is within the limit exactly when the name of its database is one and
the size of its query is within the limit. -/
theorem asQuery_fits_iff (command : Command) (whole : RawDocument) (id : Int32)
    (description : ConnectionDescription) :
    (∃ bytes, (Request.query (command.asQuery whole)).encode id = .ok bytes ∧
        bytes.length ≤ description.messageBytes) ↔
      '\x00' ∉ command.database.toList ∧
        querySize command.database whole.bytes.length ≤ description.messageBytes := by
  have target : (Namespace.ofCommands command.database).text
      = command.database ++ "." ++ "$cmd" := rfl
  have clean : '\x00' ∉ (Namespace.ofCommands command.database).text.toList ↔
      '\x00' ∉ command.database.toList := by
    simp [target]
  -- The name is the database, a dot and four letters more.
  have size : (command.asQuery whole).size = querySize command.database whole.bytes.length := by
    rw [LegacyQuery.size, asQuery, target, nameLength_append, nameLength_append,
      show nameLength "." = 1 by decide +kernel, show nameLength "$cmd" = 4 by decide +kernel,
      querySize]
  rw [LegacyQuery.fits_iff _ rfl, size, asQuery, clean]

/-- Where there are no messages of the current framing, a command is framed as a query. -/
theorem request_asQuery (command : Command) (legacy : description.hasMessages = false)
    (put : embed command.body command.sequences = .ok body) :
    command.request description = (command.queryBody body description.type).encode.bind fun whole =>
      (checkCommand whole description).bind fun _ => .ok (.query (command.asQuery whole)) := by
  rw [request, legacy, toQuery, put]
  simp only [bind, Except.bind]
  cases (command.queryBody body description.type).encode with
  | error cause => rfl
  | ok whole =>
    dsimp only
    cases checkCommand whole description <;> rfl

/-- A command can be sent when it is framed as a request of which no form is too long, whatever its
id. -/
def Sendable (command : Command) (description : ConnectionDescription) : Prop :=
  ∃ request, command.request description = .ok request ∧
    ∀ id, ∃ bytes, request.encode id = .ok bytes ∧ bytes.length ≤ description.messageBytes

/-- When a command can be sent as a query: the name of its database is one, the wrapper has a raw
form, the wrapped command is within the overhead and its message is within the limit on messages. -/
theorem sendable_iff (command : Command) (legacy : description.hasMessages = false)
    (put : embed command.body command.sequences = .ok body) (encoded : body.encode = .ok raw) :
    command.Sendable description ↔
      '\x00' ∉ command.database.toList ∧ ∃ wrapper,
        command.wrapperSize? description.type = some wrapper ∧
        raw.bytes.length + wrapper ≤ description.documentBytes + commandOverhead ∧
        querySize command.database (raw.bytes.length + wrapper) ≤ description.messageBytes := by
  have asked := command.request_asQuery legacy put
  rcases command.queryBody_size encoded description.type with
    ⟨whole, wrapper, spelled, wrapped, long⟩ | ⟨none, failed⟩
  · simp only [wrapped, Option.some.injEq, exists_eq_left', ← long]
    rw [spelled, Except.bind, checkCommand] at asked
    by_cases excess : description.documentBytes + commandOverhead < whole.bytes.length
    · rw [if_pos excess] at asked
      constructor
      · rintro ⟨request, made, -⟩
        rw [asked] at made
        cases made
      · rintro ⟨-, small, -⟩
        exact absurd excess (Nat.not_lt.mpr small)
    · -- The size of the query decides, as its document is not refused for its own.
      rw [if_neg excess] at asked
      constructor
      · rintro ⟨request, made, sent⟩
        obtain rfl := Except.ok.inj (asked.symm.trans made)
        obtain ⟨free, small⟩ := (command.asQuery_fits_iff whole 0 description).mp (sent 0)
        exact ⟨free, Nat.le_of_not_lt excess, small⟩
      · rintro ⟨free, -, small⟩
        exact ⟨_, asked, fun id =>
          (command.asQuery_fits_iff whole id description).mpr ⟨free, small⟩⟩
  · rw [failed] at asked
    simp [Sendable, asked, badResponse, Except.bind, none]

end Command

/-- Whether a request is within the limit on messages does not depend on its id. -/
theorem Request.fits_any {request : Request} {id : Int32} {description : ConnectionDescription}
    (fits : ∃ bytes, request.encode id = .ok bytes ∧ bytes.length ≤ description.messageBytes)
    (other : Int32) :
    ∃ bytes, request.encode other = .ok bytes ∧ bytes.length ≤ description.messageBytes := by
  obtain ⟨bytes, encoded, small⟩ := fits
  obtain ⟨body, spelled, framed⟩ := Work.except_bind_ok encoded
  have bounded := description.messageBytes_le
  -- The id takes four bytes, whichever it is.
  have size := (frame_fits_iff request.opCode id 0 bounded).mp ⟨bytes, framed, small⟩
  obtain ⟨again, same, within⟩ := (frame_fits_iff request.opCode other 0 bounded).mpr size
  refine ⟨again, ?_, within⟩
  rw [Request.encode, spelled]
  exact same

namespace CommandCall

variable {α : Type} {call : CommandCall} {decoder : Decoder α} {line : Line} {base : Command}
  {payload : Payload} {batch : DocumentSequence}

/-- Nothing but the framing can keep the stamped command with its batch from being sent. -/
structure Prepared (call : CommandCall) (line : Line) (payload : Payload) (base : Command)
    (batch : DocumentSequence) : Prop where
  lent : line.payload = some payload
  usable : ∀ session, line.session = some session → session.ensureUsable = .ok ()
  stamped : call.stamped line.session = .ok base
  batched : payload.nextBatch base.body line.connection.description = .ok batch

theorem Prepared.prepare_eq (prepared : call.Prepared line payload base batch) :
    call.prepare line = ((base.beside [batch], ·) <$>
      Exchange.check ((base.beside [batch]).request line.connection.description)) line := by
  have session := Exchange.ensureSession_usable prepared.usable
  simp only [prepare, Work.bind_apply, session, Work.get_apply, prepared.stamped,
    Exchange.check_ok, Exchange.withBatch, prepared.lent, prepared.batched, Work.pure_apply]
  cases framed : (base.beside [batch]).request line.connection.description <;>
    rw [Command.beside] at framed <;> rw [framed] <;> rfl

/-- A batch that cannot be sent ends the run, and all that is changed is in the network; nothing is
sent. -/
theorem Prepared.run_unsendable (prepared : call.Prepared line payload base batch)
    (unsendable : ¬ (base.beside [batch]).Sendable line.connection.description)
    (decoder : Decoder α) :
    ∃ halt network, call.run decoder line = (.error halt, { line with network }) ∧
      network.sent = line.network.sent := by
  simp only [run, Work.bind_apply, prepared.prepare_eq]
  cases framed : (base.beside [batch]).request line.connection.description with
  | error cause => exact ⟨_, line.network, rfl, rfl⟩
  | ok request =>
    -- The request is refused when it is given its id.
    have refused : ¬ line.Admits request := fun admits =>
      unsendable ⟨request, framed, Request.fits_any admits.fits⟩
    obtain ⟨network, same, quiet⟩ := register_network line request call.context
    rcases registered : register request call.context line with ⟨halt | sending, after⟩
    · rw [registered] at same
      obtain rfl : after = { line with network } := same
      simp only [Work.map_apply, Exchange.check_ok, send_refused registered]
      exact ⟨halt, network, rfl, quiet⟩
    · have accepted : (register request call.context line).1.isOk = true := by
        rw [registered]
        rfl
      exact absurd (register_isOk.mp accepted) refused

/-- The line after so many runs of a command, whatever came of them. -/
def tries (call : CommandCall) (decoder : Decoder α) : Nat → Line → Line
  | 0, line => line
  | count + 1, line => call.tries decoder count (call.run decoder line).2

/-- A batch that cannot be sent is in the way for good: however often the command is run, it is the
same batch that is prepared. -/
theorem Prepared.tries_unsendable (prepared : call.Prepared line payload base batch)
    (unsendable : ¬ (base.beside [batch]).Sendable line.connection.description)
    (decoder : Decoder α) (count : Nat) :
    ∃ network, call.tries decoder count line = { line with network } ∧
      network.sent = line.network.sent := by
  induction count generalizing line with
  | zero => exact ⟨line.network, rfl, rfl⟩
  | succ count ih =>
    obtain ⟨halt, network, ended, quiet⟩ := prepared.run_unsendable unsendable decoder
    -- The next run finds the same session and the same payload on the same connection.
    have again : call.Prepared { line with network } payload base batch :=
      ⟨prepared.lent, prepared.usable, prepared.stamped, prepared.batched⟩
    obtain ⟨last, tried, still⟩ := ih again unsendable
    rw [tries, ended]
    exact ⟨last, tried, still.trans quiet⟩

/-- What becomes of a batch inside a command. With the batch the command is no longer than a
document may be, and it can be sent exactly when the message of its query is within the limit on
messages, with the name of the database and the wrapper for routers counted. It then goes out over
an open connection, and otherwise every try fails and leaves the payload where it was. -/
theorem tries_of_batch {documents : List Document} {plain : RawDocument}
    (legacy : line.connection.description.hasMessages = false)
    (prepared : call.Prepared line payload base batch) (more : payload.hasMore = true)
    (new : payload.kind.identifier ∉ base.body.names)
    (made : encodeAll documents = .ok payload.documents)
    (proper : ∀ document ∈ documents, document.isProper = true)
    (encoded : base.body.encode = .ok plain) (decoder : Decoder α) :
    let description := line.connection.description
    let size := plain.bytes.length + Payload.reckoned description payload.kind batch.documents
    let sendable := (base.beside [batch]).Sendable description
    size ≤ description.documentBytes ∧
    (sendable ↔ '\x00' ∉ call.database.toList ∧ ∃ wrapper,
      base.wrapperSize? description.type = some wrapper ∧
      size + wrapper ≤ description.documentBytes + commandOverhead ∧
      Command.querySize call.database (size + wrapper) ≤ description.messageBytes) ∧
    (sendable → line.ensureOpen = .ok () →
      (∃ channel, line.connection.channel = some channel ∧ channel.hungUp = false) →
      line.Posts (call.run decoder line).2) ∧
    (¬ sendable → ∀ count, ∃ halt after, call.run decoder (call.tries decoder count line)
        = (.error halt, after) ∧ after.payload = some payload ∧
      after.network.sent = line.network.sent) := by
  intro description size sendable
  -- The batch is the longest that keeps the command within a document, and it was put in as
  -- reckoned.
  obtain ⟨longest, body, raw, put, spelled, total⟩ :=
    (Payload.embeds_nextBatch legacy new made proper encoded).2.1 batch prepared.batched
  refine ⟨longest.roomy (longest.useful more), ?_, fun fits ready connected => ?_,
    fun stuck count => ?_⟩
  · have database : base.database = call.database := by
      have stamped := prepared.stamped
      rw [stamped_eq] at stamped
      exact (stampedIn_ok stamped).2.1
    rw [← database, show size = raw.bytes.length from total.symm]
    exact (base.beside [batch]).sendable_iff legacy put spelled
  · obtain ⟨request, framed, within⟩ := fits
    obtain ⟨held, opened⟩ := line.ensureOpen_eq_ok.mp ready
    have found : call.prepare line = (.ok (base.beside [batch], request), line) := by
      rw [prepared.prepare_eq, framed]
      rfl
    obtain ⟨id, bytes, -, sent⟩ :=
      run_taken decoder found ⟨⟨held, opened, within line.network.nextRequest⟩, connected⟩
    exact ⟨bytes, sent⟩
  · obtain ⟨network, tried, quiet⟩ := prepared.tries_unsendable stuck decoder count
    have again : call.Prepared { line with network } payload base batch :=
      ⟨prepared.lent, prepared.usable, prepared.stamped, prepared.batched⟩
    obtain ⟨halt, last, ended, still⟩ := again.run_unsendable stuck decoder
    refine ⟨halt, { line with network := last }, ?_, prepared.lent, still.trans quiet⟩
    rw [tried, ended]

/-- Four documents, each of which could be sent alone, to a server whose messages may be much
shorter than its documents: the batch takes all of them, its query is too long, and no try gets
on. -/
theorem tries_of_batch_stuck :
    let description : ConnectionDescription :=
      { address := default, wireVersion := 5, messageLimit := 120 }
    let call : CommandCall := { database := "db", command := [("insert", .string "c")] }
    let base : Command := { database := "db", body := call.command }
    let documents : List Document :=
      [[("_id", .int32 0)], [("_id", .int32 1)], [("_id", .int32 2)], [("_id", .int32 3)]]
    ∃ payload, Payload.ofDocuments .insert documents = .ok payload ∧
      payload.nextBatch base.body description = .ok ⟨"documents", payload.documents⟩ ∧
      (∀ document ∈ payload.documents,
        (base.beside [⟨"documents", [document]⟩]).Sendable description) ∧
      let line : Line :=
        { connection := .fresh ⟨default, 1⟩ description {}, payload := some payload, network := {} }
      line.ensureOpen = .ok () ∧
        ∀ count, ∃ halt after, call.run Decoder.document (call.tries Decoder.document count line)
            = (.error halt, after) ∧ after.payload = some payload ∧ after.network.sent = [] := by
  intro description call base documents
  let raws : List RawDocument := [⟨[14, 0, 0, 0, 16, 95, 105, 100, 0, 0, 0, 0, 0, 0]⟩,
    ⟨[14, 0, 0, 0, 16, 95, 105, 100, 0, 1, 0, 0, 0, 0]⟩,
    ⟨[14, 0, 0, 0, 16, 95, 105, 100, 0, 2, 0, 0, 0, 0]⟩,
    ⟨[14, 0, 0, 0, 16, 95, 105, 100, 0, 3, 0, 0, 0, 0]⟩]
  let plain : RawDocument :=
    ⟨[19, 0, 0, 0, 2, 105, 110, 115, 101, 114, 116, 0, 2, 0, 0, 0, 99, 0, 0]⟩
  let payload : Payload := { kind := .insert, documents := raws }
  have made : encodeAll documents = .ok payload.documents :=
    Work.ok_of_toOption (by decide +kernel)
  have legacy : description.hasMessages = false := by decide
  have new : payload.kind.identifier ∉ base.body.names := by decide
  have encoded : base.body.encode = .ok plain := Work.ok_of_toOption (by decide +kernel)
  have batched : payload.nextBatch base.body description = .ok ⟨"documents", raws⟩ :=
    Work.ok_of_toOption (by decide +kernel)
  refine ⟨payload, ?_, batched, fun document among => ?_, rfl, ?_⟩
  · rw [Payload.ofDocuments, made]
    rfl
  · -- A document of fourteen bytes makes a query of eighty-eight.
    have short : ∀ document ∈ raws, document.bytes.length = 14 := by decide
    have restored : ∀ each ∈ [document], each.Restored := by
      intro each inside
      rw [List.mem_singleton.mp inside]
      have taken : document.bytes.length ≤ description.documentBytes := by
        rw [short _ among]
        decide
      exact Payload.restored_remaining made (by decide) among taken
    obtain ⟨body, raw, put, spelled, total⟩ := Payload.embedsIn legacy new encoded restored
    have size : raw.bytes.length = 52 := by
      have one : elementLength 0 14 = 17 := by decide +kernel
      have named : nameLength payload.kind.identifier = 9 := by decide +kernel
      rw [total]
      simp only [Payload.reckoned, Payload.weight, Payload.cost, short _ among, one, named]
      decide
    refine ((base.beside [⟨"documents", [document]⟩]).sendable_iff legacy put spelled).mpr
      ⟨show '\x00' ∉ "db".toList by decide, 0, rfl, ?_, ?_⟩
    · rw [size]
      decide
    · rw [size]
      show Command.querySize "db" 52 ≤ description.messageBytes
      decide +kernel
  · let line : Line := ⟨.fresh ⟨default, 1⟩ description {}, none, some payload, {}⟩
    have prepared : call.Prepared line payload base ⟨"documents", raws⟩ :=
      ⟨rfl, by simp [line], rfl, batched⟩
    have onLine : line.connection.description.hasMessages = false := legacy
    obtain ⟨-, fits, -, stuck⟩ := tries_of_batch onLine prepared (by decide) new made (by decide)
      encoded Decoder.document
    refine stuck fun sendable => ?_
    -- The query of all four has more bytes than a message may have.
    obtain ⟨-, wrapper, none, -, small⟩ := fits.mp sendable
    cases none
    exact absurd small (by decide +kernel)

end CommandCall

end DocWire
