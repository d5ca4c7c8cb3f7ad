import DocWire.Command.Run
import DocWire.Proofs.Command.Payload
import DocWire.Proofs.Document.Restored

/-! One command in two framings: as a message its sequences travel beside the body, which names the
database, and as a query all of it is one document, which routers get in a wrapper. Put together
again, both are the same document, the caller's own with its stamps. -/

namespace DocWire

/-- What the context of an operation tells of its session: who it is, and what time it has seen. -/
structure SessionContext where
  id : Option Document := none
  time : Option ClusterTime := none
deriving Repr, Inhabited

namespace SessionContext

/-- The context of an operation under a session, or under none. -/
def ofSession : Option ClientSession → SessionContext
  | none => {}
  | some session => ⟨some session.server.id, session.clusterTime⟩

/-- The fields that tell a server of the session. -/
def fields (context : SessionContext) : List (String × Value) :=
  (context.id.map fun id => ("lsid", Value.document id)).toList ++
    (context.time.map fun time => ("$clusterTime", Value.document time.toDocument)).toList

end SessionContext

section Stamps

/-- Everything that a command is stamped with, in order. -/
def stamps (context : SessionContext) (api : Option ServerApi) : List (String × Value) :=
  context.fields ++ (api.map ServerApi.toDocument).getD []

/-- The names that stamps can have. -/
def stampNames : List String :=
  ["lsid", "$clusterTime", "apiVersion", "apiStrict", "apiDeprecationErrors"]

/-- The names under which a message tells where its command goes. -/
def routingNames : List String := ["$db", "$readPreference"]

/-- Each stamp has a name of its own. -/
theorem names_stamps (context : SessionContext) (api : Option ServerApi) :
    (Document.names (stamps context api)).Sublist stampNames := by
  -- Each optional part of a stamp leaves its names out or puts them where they stand in the list.
  have session : (Document.names context.fields).Sublist ["lsid", "$clusterTime"] := by
    obtain ⟨id, time⟩ := context
    cases id <;> cases time <;> simp [SessionContext.fields, Document.names]
  have declared : (Document.names ((api.map ServerApi.toDocument).getD [])).Sublist
      ["apiVersion", "apiStrict", "apiDeprecationErrors"] := by
    cases api with
    | none => simp [Document.names]
    | some api =>
      obtain ⟨version, strict, errors⟩ := api
      cases strict <;> cases errors <;> simp [ServerApi.toDocument, Document.names]
  rw [stamps, Document.names_append]
  exact session.append declared

/-- The command of a call, stamped with what a context tells and with the declared interface. -/
def CommandCall.stampedIn (call : CommandCall) (context : SessionContext) :
    Except Cause Command := do
  let command ← Command.ofDocument call.database call.command call.readPreference
  return { command with
    body := command.body.extend (stamps context call.api)
    responseExpected := call.responseExpected }

/-- The commands that are run are stamped in the context of their session. -/
theorem CommandCall.stamped_eq (call : CommandCall) (session : Option ClientSession) :
    call.stamped session = call.stampedIn (.ofSession session) := by
  -- The stamps are put in one after another, which is how a list of fields is put in.
  have body (command : Command) : ((command.underSession session).underApi call.api)
      = { command with body := command.body.extend (stamps (.ofSession session) call.api) } := by
    rw [stamps, Document.extend_append]
    cases session with
    | none => cases call.api <;> rfl
    | some session =>
      obtain ⟨server, pool, causal, time, operation, closed⟩ := session
      cases time <;> cases call.api <;> rfl
  unfold stamped stampedIn
  cases Command.ofDocument call.database call.command call.readPreference with
  | error cause => rfl
  | ok command =>
    simp only [bind, Except.bind, body]

end Stamps

namespace Command

/-- The command with sequences of documents beside it. -/
def beside (command : Command) (sequences : List DocumentSequence) : Command :=
  { command with sequences }

/-- What a message has in its body beyond the stamped command. -/
def routing (command : Command) (type : ServerType) : List (String × Value) :=
  ("$db", .string command.database) ::
    match command.secondaryPreference with
    | some preference =>
      if type = .standalone then [] else [("$readPreference", .document preference.toDocument)]
    | none => []

theorem messageBody_eq (command : Command) (type : ServerType) :
    command.messageBody type = command.body.extend (command.routing type) := by
  unfold messageBody routing
  cases command.secondaryPreference with
  | none => rfl
  | some preference =>
    dsimp only
    split <;> rfl

theorem names_routing (command : Command) (type : ServerType) :
    (Document.names (command.routing type)).Sublist routingNames := by
  unfold routing
  cases command.secondaryPreference with
  | none => simp [Document.names, routingNames]
  | some preference =>
    dsimp only
    split <;> simp [Document.names, routingNames]

/-- Sequences as fields of a document: arrays under their names. -/
def arrays : List DocumentSequence → Except Cause (List (String × Value))
  | [] => .ok []
  | sequence :: rest => do
    let items ← itemsOf sequence.documents
    let others ← arrays rest
    return (sequence.identifier, .array items) :: others

/-- Sequences are put into any body as the same fields. -/
theorem embed_eq (body : Document) (sequences : List DocumentSequence) :
    embed body sequences = (arrays sequences).map body.extend := by
  -- Whether a sequence can be decoded does not depend on the body it is put into.
  induction sequences generalizing body with
  | nil => rfl
  | cons sequence rest ih =>
    rw [embed, arrays]
    cases itemsOf sequence.documents with
    | error cause => rfl
    | ok items =>
      simp only [bind, Except.bind]
      rw [ih]
      cases arrays rest <;> rfl

theorem arrays_ok {sequences : List DocumentSequence} {fields : List (String × Value)}
    (listed : arrays sequences = .ok fields) :
    Document.names fields = sequences.map (·.identifier) ∧
      ∀ field ∈ fields, ∃ items, field.2 = .array items := by
  induction sequences generalizing fields with
  | nil =>
    cases listed
    simp [Document.names]
  | cons sequence rest ih =>
    -- Each sequence becomes one field, an array under its name.
    obtain ⟨items, -, listed⟩ := Work.except_bind_ok listed
    obtain ⟨others, inner, listed⟩ := Work.except_bind_ok listed
    cases listed
    obtain ⟨names, held⟩ := ih inner
    exact ⟨congrArg (sequence.identifier :: ·) names,
      List.forall_mem_cons.mpr ⟨⟨items, rfl⟩, held⟩⟩

end Command

/-- The command that a message carries, its sequences put into the body as arrays. -/
def Message.commandDocument (message : Message) : Except Cause Document := do
  let body ← message.body.decode
  Command.embed body message.sequences

/-- The document of a query, taken out of the wrapper in which routers get it. -/
def Document.unwrapped : Document → Document
  | [("$query", .document query), ("$readPreference", .document _)] => query
  | document => document

/-- The command that a query carries. -/
def LegacyQuery.commandDocument (query : LegacyQuery) : Except Cause Document :=
  query.query.decode.map Document.unwrapped

/-- The document is given back when it is encoded and then decoded. -/
def Document.Faithful (document : Document) : Prop :=
  ∀ raw, document.encode = .ok raw → raw.decode = .ok document

/-- A proper document of a common length in which nothing is left to settle is given back. -/
theorem Document.faithful_of_settled {document : Document} (proper : document.isProper = true)
    (settled : Document.settle document = document)
    (small : ∀ raw ∈ document.encode.toOption, raw.bytes.length ≤ largestWord) :
    document.Faithful := by
  intro raw encoded
  have short := small raw (by rw [encoded]; rfl)
  have back := (decode_encode proper encoded short).1
  rwa [settled] at back

/-- What is decoded repeats no name. -/
theorem RawDocument.nodup_decode {raw : RawDocument} {document : Document}
    (decoded : raw.decode = .ok document) : document.names.Nodup := by
  unfold decode toDocument? at decoded
  cases found : wholeFields? (foundFields raw.elements) with
  | none => simp [found, badResponse] at decoded
  | some fields =>
    simp only [found, Option.map_some, Except.ok.injEq] at decoded
    rw [← decoded]
    -- The fields are put one after another into a document without any.
    exact Document.nodup_extend (by simp [Document.names]) (settledFields fields)

/-- A document without a read preference that is a document is in no wrapper. -/
theorem Document.unwrapped_eq_self {document : Document}
    (bare : ∀ preference, document.get? "$readPreference" ≠ some (.document preference)) :
    document.unwrapped = document := by
  unfold unwrapped
  split
  · rename_i query preference
    exact absurd (by simp [get?]) (bare preference)
  · rfl

/-- A document as it is sent for a command of the caller's: the name of the command comes first, the
caller's fields keep their values and their order, and each stamp is there once, with its value
unless documents travel under its name. -/
structure Document.Carries (sent document : Document) (stamps : List (String × Value))
    (sequences : List DocumentSequence) : Prop where
  first : sent.firstKey? = document.firstKey?
  kept : (sent.only document.names).without stampNames = document.without stampNames
  stamped : ∀ stamp ∈ stamps, sent.names.count stamp.1 = 1
  valued : ∀ stamp ∈ stamps, stamp.1 ∉ sequences.map (·.identifier) →
    sent.get? stamp.1 = some stamp.2

section Extension

variable {document : Document} {context : SessionContext} {api : Option ServerApi}
  {more : List (String × Value)}

theorem mem_stampNames {stamp : String × Value} (among : stamp ∈ stamps context api) :
    stamp.1 ∈ stampNames :=
  (names_stamps context api).mem (List.mem_map_of_mem among)

/-- No stamp has a name under which a message tells where its command goes. -/
theorem stamp_not_routing {name : String} (among : name ∈ Document.names (stamps context api)) :
    name ∉ routingNames := by
  have disjoint : ∀ name ∈ stampNames, name ∉ routingNames := by decide
  exact disjoint name ((names_stamps context api).mem among)

/-- The caller's document carries its stamps and whatever else is put in under new names. -/
theorem carries_extend {sequences : List DocumentSequence} {name : String}
    (first : document.firstKey? = some name) (single : document.names.Nodup)
    (new : ∀ name ∈ Document.names more, name ∉ document.names)
    (more_names : ∀ name ∈ Document.names more,
      name ∈ routingNames ∨ name ∈ sequences.map (·.identifier)) :
    (document.extend (stamps context api ++ more)).Carries document (stamps context api)
      sequences where
  first := by rw [Document.firstKey?_extend first, first]
  kept := by
    -- A stamp has a name that is left out, and anything else has a new name.
    apply Document.without_only_extend
    intro field among
    rcases List.mem_append.mp among with stamp | other
    · exact .inl (mem_stampNames stamp)
    · exact .inr (new field.1 (List.mem_map_of_mem other))
  stamped := by
    intro stamp among
    have inside : stamp.1 ∈ Document.names (stamps context api ++ more) := by
      rw [Document.names_append]
      exact List.mem_append_left _ (List.mem_map_of_mem among)
    have there : stamp.1 ∈ (document.extend (stamps context api ++ more)).names :=
      Document.mem_names_extend.mpr (.inr inside)
    rw [(Document.nodup_extend single _).count, if_pos there]
  valued := by
    intro stamp among free
    -- No array takes the place of the stamp, so the stamp is the last of its name.
    have apart : stamp.1 ∉ Document.names more := by
      intro inside
      rcases more_names stamp.1 inside with routing | travels
      · exact stamp_not_routing (List.mem_map_of_mem among) routing
      · exact free travels
    have different : (Document.names (stamps context api)).Nodup :=
      (names_stamps context api).nodup (by decide)
    rw [Document.extend_append, Document.get?_extend_of_not_mem apart]
    exact Document.get?_extend_of_mem different among

/-- What tells where a command goes can be taken out again, whatever was put in after it. -/
theorem without_routing {routing : List (String × Value)}
    (ways : (Document.names routing).Sublist routingNames) (document : Document)
    (fields others : List (String × Value)) :
    (document.extend (fields ++ (routing ++ others))).without routingNames
      = (document.extend (fields ++ others)).without routingNames := by
  -- With the names left out there is nothing in between any more.
  have none : Document.without routing routingNames = [] := by
    refine List.filter_eq_nil_iff.mpr fun field among => ?_
    simp [ways.mem (List.mem_map_of_mem among)]
  simp only [Document.without, Document.restrict_extend] at none ⊢
  simp only [Document.restrict, List.filter_append] at none ⊢
  rw [none, List.nil_append]

/-- Without a field of these names there is nothing to take out. -/
theorem without_eq_self {names : List String} (free : ∀ name ∈ document.names, name ∉ names) :
    document.without names = document := by
  refine List.filter_eq_self.mpr fun field among => ?_
  simpa using free field.1 (List.mem_map_of_mem among)

/-- The stamped command is left when what tells where it goes is taken out of it. -/
theorem stamped_without_routing {routing : List (String × Value)}
    (ways : (Document.names routing).Sublist routingNames)
    (plain : ∀ name ∈ routingNames, name ∉ document.names)
    (free : ∀ name ∈ Document.names more, name ∉ routingNames) :
    (document.extend (stamps context api ++ (routing ++ more))).without routingNames
      = document.extend (stamps context api ++ more) := by
  -- Neither the caller, nor a stamp, nor what comes after has one of the names.
  rw [without_routing ways]
  apply without_eq_self
  intro name inside routed
  rcases Document.mem_names_extend.mp inside with own | put
  · exact plain name routed own
  · rw [Document.names_append, List.mem_append] at put
    rcases put with stamp | other
    · exact stamp_not_routing stamp routed
    · exact free name other routed

/-- A stamped command with arrays in it is in no wrapper. -/
theorem unwrapped_extend (plain : ∀ name ∈ routingNames, name ∉ document.names)
    (arrays : ∀ field ∈ more, ∃ items, field.2 = .array items) :
    (document.extend (stamps context api ++ more)).unwrapped
      = document.extend (stamps context api ++ more) := by
  have routing : "$readPreference" ∈ routingNames := by decide
  apply Document.unwrapped_eq_self
  intro preference found
  rcases Document.get?_extend_cases found with put | before
  · rcases List.mem_append.mp put with stamp | other
    · exact stamp_not_routing (List.mem_map_of_mem stamp) routing
    · obtain ⟨items, array⟩ := arrays _ other
      cases array
  · -- The caller's own document has no field of this name.
    apply plain _ routing
    unfold Document.get? at before
    obtain ⟨field, there, -⟩ := Option.map_eq_some_iff.mp before
    have same := List.find?_some there
    rw [← eq_of_beq same]
    exact List.mem_map_of_mem (List.mem_of_find?_eq_some there)

end Extension

namespace CommandCall

variable {call : CommandCall} {context : SessionContext} {base : Command}
  {sequences : List DocumentSequence} {modern legacy : ConnectionDescription}

theorem stampedIn_ok (stamped : call.stampedIn context = .ok base) :
    (∃ name, call.command.firstKey? = some name) ∧ base.database = call.database ∧
      base.body = call.command.extend (stamps context call.api) := by
  obtain ⟨command, built, stamped⟩ := Work.except_bind_ok stamped
  unfold Command.ofDocument at built
  -- A document without a first field is no command.
  split at built
  · cases built
  · rename_i name first
    cases built
    cases stamped
    exact ⟨⟨name, first⟩, rfl, rfl⟩

/-- The message holds the stamped command, and says where it goes. -/
theorem message_ok {message : Message} (stamped : call.stampedIn context = .ok base)
    (framed : (base.beside sequences).toMessage modern = .ok message)
    (whole : ((base.beside sequences).messageBody modern.type).Faithful) :
    message.sequences = sequences ∧ message.body.decode = .ok (call.command.extend
      (stamps context call.api ++ (base.beside sequences).routing modern.type)) := by
  obtain ⟨-, -, body⟩ := stampedIn_ok stamped
  unfold Command.toMessage at framed
  obtain ⟨raw, encoded, framed⟩ := Work.except_bind_ok framed
  obtain ⟨_, _, framed⟩ := Work.except_bind_ok framed
  cases framed
  -- The body is read back whole, with what was stamped on it and where it goes.
  have decoded := whole raw encoded
  rw [Command.messageBody_eq] at decoded
  refine ⟨rfl, ?_⟩
  rw [Document.extend_append, ← body]
  exact decoded

/-- The query holds the stamped command with its sequences in it, perhaps in a wrapper. -/
theorem query_ok {query : LegacyQuery} (stamped : call.stampedIn context = .ok base)
    (asked : (base.beside sequences).toQuery legacy = .ok query)
    (whole : ∀ body, Command.embed base.body sequences = .ok body →
      ((base.beside sequences).queryBody body legacy.type).Faithful) :
    ∃ fields, Command.arrays sequences = .ok fields ∧
      query.target = Namespace.ofCommands call.database ∧
      ∃ sent, query.query.decode = .ok sent ∧
        (sent = call.command.extend (stamps context call.api ++ fields) ∨
          ∃ preference, sent = Command.wrapped
            (call.command.extend (stamps context call.api ++ fields)) preference) := by
  obtain ⟨-, database, body⟩ := stampedIn_ok stamped
  unfold Command.toQuery at asked
  obtain ⟨embedded, put, asked⟩ := Work.except_bind_ok asked
  obtain ⟨raw, encoded, asked⟩ := Work.except_bind_ok asked
  obtain ⟨_, _, asked⟩ := Work.except_bind_ok asked
  cases asked
  have decoded := whole embedded put raw encoded
  have put' : Command.embed base.body sequences = .ok embedded := put
  rw [Command.embed_eq] at put'
  -- That the sequences were put in means that they could be decoded.
  cases listed : Command.arrays sequences with
  | error cause =>
    rw [listed] at put'
    cases put'
  | ok fields =>
    rw [listed] at put'
    cases put'
    refine ⟨fields, rfl, congrArg Namespace.ofCommands database, _, decoded, ?_⟩
    rw [Document.extend_append, ← body]
    exact Command.queryBody_cases _ _ _

end CommandCall

end DocWire
