import DocWire.Cursor.Query
import DocWire.Proofs.Document.Fields
import DocWire.Proofs.Executor.Stepwise
import DocWire.Proofs.Write.Mandate

/-! What a query asks for, as the server reads it off the message: a find command in one of the
framings, or a legacy query. -/

namespace DocWire

namespace RawDocument

/-- The word of a field, which is zero when it is left out. -/
def wordOrZero? (document : RawDocument) (key : String) : Option Int32 :=
  match document.scalar key .int32 with
  | .ok (.int32 word) => some word
  | .error .absent => some 0
  | _ => none

/-- Whether a field is true, which it is not when it is left out. -/
def flagIn? (document : RawDocument) (key : String) : Option Bool :=
  match document.scalar key .boolean with
  | .ok (.boolean truth) => some truth
  | .error .absent => some false
  | _ => none

/-- The document of a field that may be left out. -/
def documentOrNone? (document : RawDocument) (key : String) : Option (Option RawDocument) :=
  match document.document key with
  | .ok inner => some (some inner)
  | .error .absent => some none
  | .error _ => none

/-- Whether a member other than the primary is preferred, which none is when nothing is said. -/
def prefersOthers? (document : RawDocument) : Option Bool := do
  match ← document.documentOrNone? "$readPreference" with
  | some preference => return (← preference.textIn? "mode") != "primary"
  | none => return false

end RawDocument

/-- What a query asks of the first batch: how many documents at most, and that the cursor is closed
after it. -/
structure FirstBatch where
  bound : Option Nat
  closes : Bool
deriving DecidableEq, Repr

/-- What a legacy query asks of the first batch; zero leaves its size open. -/
def FirstBatch.ofWord (toReturn : Int32) : FirstBatch where
  bound := if toReturn = 0 then none else some toReturn.toInt.natAbs
  closes := toReturn < 0

/-- What a command asks of the first batch; the lesser number counts, and zero leaves the size open.
-/
def FirstBatch.ofSizes (limit batchSize : Int32) (single : Bool) : FirstBatch where
  bound := ([limit.toInt.natAbs, batchSize.toInt.natAbs].filter (0 < ·)).min?
  closes := single

/-- What a query asks for, beside the filter. -/
structure Inquiry where
  skip : Int32
  first : FirstBatch
  projection : Option RawDocument
  tailable : Bool
  awaitData : Bool
  noCursorTimeout : Bool
  partialResults : Bool
  oplogReplay : Bool
  secondary : Bool
deriving DecidableEq, Repr

/-- The parts of a legacy query; of its collection only the full name is told. -/
structure QueryParts where
  flags : QueryFlags
  target : String
  skip : Int32
  toReturn : Int32
  query : RawDocument
  fields : Option RawDocument
deriving DecidableEq, Repr

/-- Reads a legacy query; the projection is behind the query, if there is one. -/
def QueryParts.read (body : Bytes) : Except Cause QueryParts := do
  let (word, bytes) ← readUInt32 body
  let (target, bytes) ← readZeroTerminated bytes
  let (skip, bytes) ← readInt32 bytes
  let (toReturn, bytes) ← readInt32 bytes
  let (query, bytes) ← readDocument bytes
  let fields ← readDocuments bytes
  return { flags := .ofWord word, target, skip, toReturn, query, fields := fields.head? }

namespace Inquiry

/-- What a legacy query asks for. -/
def ofParts (parts : QueryParts) : Inquiry where
  skip := parts.skip
  first := .ofWord parts.toReturn
  projection := parts.fields
  tailable := parts.flags.tailable
  awaitData := parts.flags.awaitData
  noCursorTimeout := parts.flags.noCursorTimeout
  partialResults := parts.flags.partialResults
  oplogReplay := parts.flags.oplogReplay
  secondary := parts.flags.secondaryOk

/-- What a find command asks for, to be run on a secondary or not. -/
def ofFields? (body : RawDocument) (secondary : Bool) : Option Inquiry := do
  let limit ← body.wordOrZero? "limit"
  let batchSize ← body.wordOrZero? "batchSize"
  return {
    skip := ← body.wordOrZero? "skip"
    first := .ofSizes limit batchSize (← body.flagIn? "singleBatch")
    projection := ← body.documentOrNone? "projection"
    tailable := ← body.flagIn? "tailable"
    awaitData := ← body.flagIn? "awaitData"
    noCursorTimeout := ← body.flagIn? "noCursorTimeout"
    partialResults := ← body.flagIn? "allowPartialResults"
    oplogReplay := ← body.flagIn? "oplogReplay"
    secondary }

/-- What a find command in a legacy query asks for. Routers find it beside the preference. -/
def ofCommandParts? (parts : QueryParts) : Option Inquiry := do
  match ← parts.query.documentOrNone? "$query" with
  | some inner => ofFields? inner (parts.flags.secondaryOk || (← parts.query.prefersOthers?))
  | none => ofFields? parts.query parts.flags.secondaryOk

/-- What the message of a find command asks for. A secondary may answer when the flag of the query
says so, or the preference beside or among the fields. -/
def ofFind? (bytes : Bytes) : Option Inquiry := do
  match ← opened? bytes with
  | (.message, length, body) =>
    let message ← (Message.read length body).toOption
    ofFields? message.body (← message.body.prefersOthers?)
  | (.query, _, body) =>
    let parts ← (QueryParts.read body).toOption
    let _ ← commandDatabase? parts.target
    ofCommandParts? parts
  | _ => none

/-- What the message of a legacy query asks for. -/
def ofLegacy? (bytes : Bytes) : Option Inquiry := do
  match ← opened? bytes with
  | (.query, _, body) => return ofParts (← (QueryParts.read body).toOption)
  | _ => none

end Inquiry

namespace QueryOptions

/-- Whether a member other than the primary is preferred. -/
def prefersOthers (options : QueryOptions) : Bool :=
  (options.readPreference.filter (·.allowsSecondary)).isSome

/-- What a find command with the options asks for. A number of documents to skip that is not
positive is left out, and so is a preference where there are no other members. -/
def asked (options : QueryOptions) (alone : Bool) (projection : Option RawDocument) : Inquiry where
  skip := if 0 < options.skip then options.skip else 0
  first := .ofSizes (magnitude options.limit) (magnitude options.batchSize) (options.limit < 0)
  projection
  tailable := options.tailable
  awaitData := options.awaitData
  noCursorTimeout := options.noCursorTimeout
  partialResults := options.partialResults
  oplogReplay := options.oplogReplay
  secondary := !alone && options.prefersOthers

/-- What a legacy query with the options asks for. -/
def queried (options : QueryOptions) (projection : Option RawDocument) : Inquiry where
  skip := options.skip
  first := .ofWord options.toReturn
  projection
  tailable := options.tailable
  awaitData := options.awaitData
  noCursorTimeout := options.noCursorTimeout
  partialResults := options.partialResults
  oplogReplay := options.oplogReplay
  secondary := options.allowsSecondary

theorem allowsSecondary_eq (options : QueryOptions) :
    options.allowsSecondary = (options.secondaryOk || options.prefersOthers) := by
  unfold allowsSecondary prefersOthers
  cases options.readPreference with
  | none => rfl
  | some preference => cases preference <;> rfl

end QueryOptions

namespace Document

theorem get?_append (document other : Document) (key : String) :
    Document.get? (document ++ other) key
      = (Document.get? document key).or (Document.get? other key) := by
  simp [get?, List.find?_append, Option.map_or]

theorem get?_ite (chosen : Prop) [Decidable chosen] (document other : Document) (key : String) :
    Document.get? (if chosen then document else other) key
      = if chosen then Document.get? document key else Document.get? other key :=
  apply_ite (fun fields => Document.get? fields key) chosen document other

theorem get?_nil (key : String) : Document.get? [] key = none := rfl

theorem get?_cons (name : String) (value : Value) (rest : Document) (key : String) :
    Document.get? ((name, value) :: rest) key
      = if name = key then some value else Document.get? rest key := by
  by_cases same : name = key <;> simp [get?, same]

/-- Fields that tell their own ends still do after one more was put in. -/
theorem plain_insert {document : Document} {key : String} {value : Value}
    (plain : ∀ field ∈ document, field.2.kind.isPlain = true)
    (new : value.kind.isPlain = true) :
    ∀ field ∈ document.insert key value, field.2.kind.isPlain = true := by
  induction document with
  | nil => simpa [Document.insert_nil] using new
  | cons field rest ih =>
    obtain ⟨name, old⟩ := field
    obtain ⟨first, others⟩ := List.forall_mem_cons.mp plain
    rw [Document.insert_cons]
    -- The new value takes the place of an old one, or it comes behind all of them.
    split
    · exact List.forall_mem_cons.mpr ⟨new, others⟩
    · exact List.forall_mem_cons.mpr ⟨first, ih others⟩

/-- A field that may be left out is found when it is there. -/
theorem get?_toList {α : Type} (name : String) (held : Option α) (spelled : α → Value)
    (key : String) : Document.get? (held.map fun value => (name, spelled value)).toList key
      = if name = key then held.map spelled else none := by
  cases held with
  | none => simp [get?]
  | some value => exact get?_cons name (spelled value) [] key

/-- A flag is found when it is one of those that are set. -/
theorem get?_flags (flags : List (String × Bool)) (key : String) :
    Document.get? ((flags.filter (·.2)).map fun flag => (flag.1, Value.boolean true)) key
      = if flags.any fun flag => flag.1 == key && flag.2 then some (.boolean true) else none := by
  induction flags with
  | nil => rfl
  | cons flag rest ih =>
    obtain ⟨name, set⟩ := flag
    -- A flag that is not set is left out.
    cases set
    · simpa using ih
    · by_cases same : name = key
      · simp [get?, same]
      · have : (name == key) = false := by simpa using same
        simpa [get?, this] using ih

namespace Written

variable {document : Document} {raw : RawDocument} {key : String}

/-- A field that is left out is absent and not merely of another kind. -/
theorem payload_absent (written : document.Written raw) (absent : document.get? key = none)
    (kind : ElementKind) : raw.payload key kind = .error .absent := by
  obtain ⟨elements, found, holds⟩ := written.holds
  exact holds.payload_absent (find?_of_absent found absent) kind

theorem scalar_absent (written : document.Written raw) (absent : document.get? key = none)
    (kind : ElementKind) : raw.scalar key kind = .error .absent := by
  simp only [RawDocument.scalar, written.payload_absent absent, bind, Except.bind]

theorem wordOrZero?_eq (written : document.Written raw) {word : Int32}
    (held : document.get? key = if word = 0 then none else some (.int32 word)) :
    raw.wordOrZero? key = some word := by
  split at held
  · rename_i zero
    simp only [RawDocument.wordOrZero?, written.scalar_absent held, zero]
  · have found : raw.scalar key .int32 = .ok (.int32 word) :=
      written.scalar_eq held (readsBack_int32 word)
    simp only [RawDocument.wordOrZero?, found]

theorem flagIn?_eq (written : document.Written raw) {flag : Bool}
    (held : document.get? key = if flag then some (.boolean true) else none) :
    raw.flagIn? key = some flag := by
  cases flag with
  | false =>
    simp only [RawDocument.flagIn?, written.scalar_absent held]
  | true =>
    have found : raw.scalar key .boolean = .ok (.boolean true) :=
      written.scalar_eq held (readsBack_boolean true)
    simp only [RawDocument.flagIn?, found]

theorem documentOrNone?_eq (written : document.Written raw) {fields : Option Document}
    (held : document.get? key = fields.map .document) :
    ∃ inner, fields.mapM (·.encode) = Except.ok inner ∧ raw.documentOrNone? key = some inner := by
  cases fields with
  | none =>
    -- That the field is absent is told apart from its being of another type.
    have absent : raw.document key = .error .absent := by
      simp only [RawDocument.document, written.payload_absent held, bind, Except.bind]
    exact ⟨none, rfl, by simp only [RawDocument.documentOrNone?, absent]⟩
  | some fields =>
    obtain ⟨inner, encoded, -, found⟩ := written.document_eq held
    refine ⟨some inner, ?_, by simp only [RawDocument.documentOrNone?, found]⟩
    simp only [Option.mapM_some, encoded]
    rfl

/-- A preference for other members is read back from the field that it stands in. -/
theorem prefersOthers?_eq (written : document.Written raw) {preference : Option ReadPreference}
    (others : ∀ other ∈ preference, other.allowsSecondary = true)
    (held : document.get? "$readPreference"
      = preference.map fun other => .document other.toDocument) :
    raw.prefersOthers? = some preference.isSome := by
  cases preference with
  | none =>
    have absent : document.get? "$readPreference" = (none : Option Document).map .document := held
    obtain ⟨inner, there, found⟩ := written.documentOrNone?_eq absent
    cases there
    simp [RawDocument.prefersOthers?, found]
  | some other =>
    obtain ⟨inner, encoded, small, found⟩ := written.document_eq held
    -- A preference is written with a mode and perhaps tag sets, and the mode alone decides.
    have plain : ∀ field ∈ other.toDocument, field.2.kind.isPlain = true := by
      intro field among
      simp only [ReadPreference.toDocument, List.mem_cons, Option.mem_toList,
        Option.map_eq_some_iff] at among
      rcases among with rfl | ⟨sets, -, rfl⟩ <;> rfl
    have mode := Written.textIn?_eq ⟨plain, encoded, small⟩ (rfl : Document.get? _ "mode" = _)
    have apart : (other.modeName != "primary") = true := by
      have chosen := others other rfl
      cases other with
      | primary => cases chosen
      | other kind _ => cases kind <;> rfl
    simp [RawDocument.prefersOthers?, RawDocument.documentOrNone?, found, mode, apart]

end Written

end Document

/-- The size of a word is the size of its number, if a word can be so great. -/
theorem toInt_magnitude (word : Int32) :
    (magnitude word).toInt = (min word.toInt.natAbs (2 ^ 31 - 1) : Nat) := by
  have low := word.le_toInt
  have high := word.toInt_lt
  have zero : (0 : Int32).toInt = 0 := rfl
  unfold magnitude
  split
  · -- The least word has no positive counterpart and goes to the greatest word.
    rename_i least
    subst least
    decide
  · rename_i more
    have above : word.toInt ≠ -2 ^ 31 := fun same =>
      more (Int32.toInt_inj.mp (same.trans Int32.toInt_minValue.symm))
    simp only [Int32.lt_iff_toInt_lt, zero]
    split
    · rw [Int32.toInt_neg, Int.bmod]
      omega
    · omega

theorem magnitude_eq_zero {word : Int32} : magnitude word = 0 ↔ word = 0 := by
  have size := toInt_magnitude word
  have zero : (0 : Int32).toInt = 0 := rfl
  rw [← Int32.toInt_inj, ← Int32.toInt_inj, zero]
  omega

theorem magnitude_of_pos {word : Int32} (positive : 0 < word) : magnitude word = word := by
  have size := toInt_magnitude word
  have high := word.toInt_lt
  have zero : (0 : Int32).toInt = 0 := rfl
  rw [Int32.lt_iff_toInt_lt, zero] at positive
  rw [← Int32.toInt_inj]
  omega

theorem pos_of_not_neg {word : Int32} (some : word ≠ 0) (negative : ¬ word < 0) : 0 < word := by
  have zero : (0 : Int32).toInt = 0 := rfl
  rw [ne_eq, ← Int32.toInt_inj] at some
  rw [Int32.lt_iff_toInt_lt] at negative ⊢
  omega

theorem toInt_lesser (a b : Int32) : (lesser a b).toInt = min a.toInt b.toInt := by
  unfold lesser
  simp only [Int32.le_iff_toInt_le]
  split <;> omega

namespace QueryOptions

variable {options : QueryOptions} {document : Document} {raw : RawDocument}

/-- A document tells the options, whatever other fields it has. What is zero or not set is left out.
-/
structure Told (options : QueryOptions) (document : Document) : Prop where
  skip : document.get? "skip" = if 0 < options.skip then some (.int32 options.skip) else none
  limit : document.get? "limit"
    = if magnitude options.limit = 0 then none else some (.int32 (magnitude options.limit))
  single : document.get? "singleBatch"
    = if options.limit < 0 then some (.boolean true) else none
  batchSize : document.get? "batchSize"
    = if magnitude options.batchSize = 0 then none else some (.int32 (magnitude options.batchSize))
  projection : document.get? "projection" = options.projection.map .document
  tailable : document.get? "tailable" = if options.tailable then some (.boolean true) else none
  awaitData : document.get? "awaitData" = if options.awaitData then some (.boolean true) else none
  noCursorTimeout : document.get? "noCursorTimeout"
    = if options.noCursorTimeout then some (.boolean true) else none
  partialResults : document.get? "allowPartialResults"
    = if options.partialResults then some (.boolean true) else none
  oplogReplay : document.get? "oplogReplay"
    = if options.oplogReplay then some (.boolean true) else none
  plain : ∀ field ∈ document, field.2.kind.isPlain = true

/-- The body of the command tells the options. -/
theorem told_body (query : Query) : query.options.Told query.body := by
  refine ⟨?_, ?_, ?_, ?_, ?_, ?_, ?_, ?_, ?_, ?_, ?_⟩
  -- Each field is looked up through the ones before it; the three that depend on more than one
  -- branch are left.
  all_goals simp [Query.body, fields, Document.get?_append, Document.get?_ite,
      Document.get?_flags, Document.get?_nil, Document.get?_cons, Document.get?_toList]
  -- A limit is told by its size, in two branches by its sign.
  case refine_2 =>
    simp only [magnitude_eq_zero]
    by_cases none : query.options.limit = 0
    · simp [none]
    · by_cases negative : query.options.limit < 0
      · simp [none, negative]
      · have positive := pos_of_not_neg none negative
        simp [none, negative, positive, magnitude_of_pos positive]
  case refine_4 => simp only [magnitude_eq_zero]
  -- Every field that may be there is plain, the limit and its mark for a single batch among them.
  case refine_11 =>
    refine ⟨rfl, rfl, fun name value among => ?_⟩
    rcases among with
      ⟨-, -, rfl⟩ | limit | ⟨-, -, rfl⟩ | ⟨projection, -, -, rfl⟩ | ⟨flag, -, -, rfl⟩
    case inr.inl =>
      split at limit
      · rcases List.mem_cons.mp limit with same | limit
        · cases same
          rfl
        · cases List.mem_singleton.mp limit
          rfl
      · split at limit
        · cases List.mem_singleton.mp limit
          rfl
        · cases limit
    all_goals rfl

/-- Fields of other names may be put in. -/
theorem Told.insert (told : options.Told document) {key : String} {value : Value}
    (other : key ∉ ["skip", "limit", "singleBatch", "batchSize", "projection", "tailable",
      "awaitData", "noCursorTimeout", "allowPartialResults", "oplogReplay"])
    (plain : value.kind.isPlain = true) : options.Told (document.insert key value) := by
  simp only [List.mem_cons, List.not_mem_nil, or_false, not_or] at other
  -- The name that is put in is none that tells an option.
  obtain ⟨skip, limit, single, batchSize, projection, tailable, awaitData, noCursorTimeout,
    partialResults, oplogReplay⟩ := other
  exact {
    skip := (Document.get?_insert_of_ne _ _ _ skip).trans told.skip
    limit := (Document.get?_insert_of_ne _ _ _ limit).trans told.limit
    single := (Document.get?_insert_of_ne _ _ _ single).trans told.single
    batchSize := (Document.get?_insert_of_ne _ _ _ batchSize).trans told.batchSize
    projection := (Document.get?_insert_of_ne _ _ _ projection).trans told.projection
    tailable := (Document.get?_insert_of_ne _ _ _ tailable).trans told.tailable
    awaitData := (Document.get?_insert_of_ne _ _ _ awaitData).trans told.awaitData
    noCursorTimeout :=
      (Document.get?_insert_of_ne _ _ _ noCursorTimeout).trans told.noCursorTimeout
    partialResults := (Document.get?_insert_of_ne _ _ _ partialResults).trans told.partialResults
    oplogReplay := (Document.get?_insert_of_ne _ _ _ oplogReplay).trans told.oplogReplay
    plain := Document.plain_insert told.plain plain }

/-- What the document tells is read off its bytes. -/
theorem Told.ofFields?_eq (told : options.Told document) (written : document.Written raw)
    (secondary : Bool) :
    ∃ projection, options.projection.mapM (·.encode) = Except.ok projection ∧
      Inquiry.ofFields? raw secondary = some { options.asked false projection with secondary } := by
  obtain ⟨projection, encoded, found⟩ := written.documentOrNone?_eq told.projection
  refine ⟨projection, encoded, ?_⟩
  -- A skip is left out unless it is positive, and read as zero where it is not there.
  have skip : raw.wordOrZero? "skip" = some (if 0 < options.skip then options.skip else 0) := by
    apply written.wordOrZero?_eq
    rw [told.skip]
    by_cases positive : 0 < options.skip
    · have some : options.skip ≠ 0 := fun none => by
        rw [none] at positive
        exact absurd positive (by decide)
      simp [positive, some]
    · simp [positive]
  have single : raw.flagIn? "singleBatch" = some (decide (options.limit < 0)) :=
    written.flagIn?_eq (by simpa using told.single)
  simp only [Inquiry.ofFields?, written.wordOrZero?_eq told.limit,
    written.wordOrZero?_eq told.batchSize, skip, single, found, written.flagIn?_eq told.tailable,
    written.flagIn?_eq told.awaitData, written.flagIn?_eq told.noCursorTimeout,
    written.flagIn?_eq told.partialResults, written.flagIn?_eq told.oplogReplay,
    Option.bind_eq_bind, Option.bind_some, Option.pure_def, asked]

end QueryOptions

/-- A legacy query is read field by field. -/
theorem QueryParts.read_query {query : LegacyQuery} {body : Bytes}
    (encoded : query.encode = .ok body) (sound : query.query.Measured)
    (others : ∀ projection ∈ query.fields, projection.Measured) :
    QueryParts.read body = .ok
      { flags := query.flags, target := query.target.text, skip := query.skip
        toReturn := query.toReturn, query := query.query, fields := query.fields } := by
  obtain ⟨target, named, encoded⟩ := Work.except_bind_ok encoded
  obtain ⟨clean, rfl⟩ := encodeNamespace_ok named
  cases encoded
  -- What stands behind the query is the projection or nothing.
  have fields : readDocuments ((query.fields.map (·.bytes)).getD [])
      = .ok query.fields.toList := by
    refine readDocuments_eq_ok.mpr ⟨fun projection among => others projection ?_, ?_⟩
    · simpa using among
    · cases query.fields <;> simp
  simp only [QueryParts.read, List.append_assoc]
  simp only [← List.append_assoc (Bytes.ofString _) [0], Write.readUInt32_append,
    Write.readZeroTerminated_append clean, Write.readInt32_append,
    Write.readDocument_append sound, fields, QueryFlags.ofWord_toWord, bind, Except.bind, pure,
    Except.pure]
  cases query.fields <;> rfl

namespace Query

variable {query : Query} {description : ConnectionDescription} {request : Request} {id : Int32}
  {bytes : Bytes}

/-- The body has no place for a preference, and no other query inside. -/
theorem get?_body (query : Query) :
    query.body.get? "$readPreference" = none ∧ query.body.get? "$query" = none := by
  constructor <;> simp [body, QueryOptions.fields, Document.get?_append, Document.get?_ite,
    Document.get?_flags, Document.get?_nil, Document.get?_cons, Document.get?_toList]

/-- A legacy query asks for what the options ask for. -/
theorem ofLegacy?_legacyRequest {type : ServerType}
    (framed : query.legacyRequest type = .ok request) (encoded : request.encode id = .ok bytes) :
    ∃ projection, query.options.projection.mapM (·.encode) = Except.ok projection ∧
      Inquiry.ofLegacy? bytes = some (query.options.queried projection) := by
  obtain ⟨length, body, coded, header, small⟩ := Write.opened?_encode encoded
  obtain ⟨raw, written, framed⟩ := Work.except_bind_ok framed
  obtain ⟨projection, chosen, framed⟩ := Work.except_bind_ok framed
  cases framed
  refine ⟨projection, chosen, ?_⟩
  have short : raw.bytes.length ≤ largestWord := Write.length_query_le coded small
  have others : ∀ fields ∈ projection, RawDocument.Measured fields := by
    rintro fields rfl
    -- The projection is the last part of the message, so it is no longer than the whole.
    have short : fields.bytes.length ≤ largestWord := by
      obtain ⟨target, _, made⟩ := Work.except_bind_ok coded
      cases made
      simp only [List.length_append, Option.map_some, Option.getD_some] at small
      omega
    cases told : query.options.projection with
    | none =>
      rw [told] at chosen
      cases chosen
    | some document =>
      rw [told, Option.mapM_some] at chosen
      obtain ⟨_, encoded, same⟩ := Work.except_map_ok chosen
      cases same
      exact Document.measured_encode encoded short
  have read := QueryParts.read_query coded (Document.measured_encode written short) others
  simp only [Inquiry.ofLegacy?, header, Request.opCode, read, Except.toOption, Option.bind_eq_bind,
    Option.bind_some, Option.pure_def]
  rfl

/-- The preference of the command, if it is for other members than the primary. -/
theorem secondaryPreference_command (query : Query) :
    query.command.secondaryPreference
      = query.options.readPreference.filter (·.allowsSecondary) := rfl

theorem allowsSecondary_of_mem {query : Query} :
    ∀ other ∈ query.command.secondaryPreference, other.allowsSecondary = true :=
  fun _ among => (Option.filter_eq_some_iff.mp among).2

/-- A message of the find command tells the options, and the preference among them where there are
other members. -/
theorem told_messageBody (query : Query) (type : ServerType) :
    query.options.Told (query.command.messageBody type) ∧
    (query.command.messageBody type).get? "$readPreference"
      = (if type = .standalone then none else query.command.secondaryPreference).map
        fun other => .document other.toDocument := by
  -- The database is put in for every query, and names none of the options.
  have based : query.options.Told (query.body.insert "$db" (.string query.target.database)) :=
    (QueryOptions.told_body query).insert (by decide) rfl
  have bare : Document.get? (query.body.insert "$db" (.string query.target.database))
      "$readPreference" = none :=
    (Document.get?_insert_of_ne _ _ _ (by decide)).trans query.get?_body.1
  unfold Command.messageBody
  cases query.command.secondaryPreference with
  | none =>
    refine ⟨based, bare.trans ?_⟩
    split <;> rfl
  | some other =>
    -- A standalone server is told no preference.
    by_cases alone : type = .standalone
    · simp only [alone, if_true]
      exact ⟨based, bare⟩
    · simp only [alone, if_false]
      exact ⟨based.insert (by decide) rfl, Document.get?_insert _ _ _⟩

/-- A find command in a message asks for what the options ask for. -/
theorem ofFind?_message (messages : description.hasMessages = true)
    (framed : query.command.request description = .ok request)
    (encoded : request.encode id = .ok bytes) :
    ∃ projection, query.options.projection.mapM (·.encode) = Except.ok projection ∧
      Inquiry.ofFind? bytes
        = some (query.options.asked (description.type = .standalone) projection) := by
  obtain ⟨length, body, coded, header, small⟩ := Write.opened?_encode encoded
  obtain ⟨raw, written, rfl⟩ := Write.request_message rfl messages framed
  obtain ⟨told, preference⟩ := query.told_messageBody description.type
  have whole : Document.Written _ raw := ⟨told.plain, written, Write.length_body_le coded small⟩
  -- Whether other members are asked is told by the field, which a standalone server does not get.
  have others : raw.prefersOthers?
      = some (!decide (description.type = .standalone) && query.options.prefersOthers) := by
    rw [whole.prefersOthers?_eq ?_ preference]
    · by_cases alone : description.type = .standalone <;> simp [alone]
      rfl
    · split
      · exact nofun
      · exact allowsSecondary_of_mem
  have read := Write.read_message coded rfl rfl whole.measured length
  obtain ⟨projection, chosen, found⟩ := told.ofFields?_eq whole
    (!decide (description.type = .standalone) && query.options.prefersOthers)
  refine ⟨projection, chosen, ?_⟩
  simp only [Inquiry.ofFind?, header, Request.opCode, read, Except.toOption, Option.bind_eq_bind,
    Option.bind_some, others]
  exact found

/-- A find command that is the whole query asks for what the options ask for. -/
theorem ofCommandParts?_body {parts : QueryParts} (written : query.body.encode = .ok parts.query)
    (short : parts.query.bytes.length ≤ largestWord)
    (flag : parts.flags.secondaryOk = query.options.prefersOthers) :
    ∃ projection, query.options.projection.mapM (·.encode) = Except.ok projection ∧
      Inquiry.ofCommandParts? parts = some (query.options.asked false projection) := by
  have told := QueryOptions.told_body query
  have whole : query.body.Written parts.query := ⟨told.plain, written, short⟩
  have absent : query.body.get? "$query" = (none : Option Document).map .document :=
    query.get?_body.2
  -- No query is found inside, so the fields are the ones of the query itself.
  obtain ⟨_, none, found⟩ := whole.documentOrNone?_eq absent
  cases none
  obtain ⟨projection, chosen, read⟩ := told.ofFields?_eq whole query.options.prefersOthers
  refine ⟨projection, chosen, ?_⟩
  simp only [Inquiry.ofCommandParts?, found, flag, Option.bind_eq_bind, Option.bind_some]
  exact read

/-- A find command in a wrapper for routers asks for what the options ask for; the preference beside
it says the same as the flag. -/
theorem ofCommandParts?_wrapped {parts : QueryParts} {preference : ReadPreference}
    (preferred : query.command.secondaryPreference = some preference)
    (written : (Command.wrapped query.body preference).encode = .ok parts.query)
    (short : parts.query.bytes.length ≤ largestWord)
    (flag : parts.flags.secondaryOk = query.options.prefersOthers) :
    ∃ projection, query.options.projection.mapM (·.encode) = Except.ok projection ∧
      Inquiry.ofCommandParts? parts = some (query.options.asked false projection) := by
  have told := QueryOptions.told_body query
  have whole : Document.Written (Command.wrapped query.body preference) parts.query :=
    ⟨by simp [Command.wrapped, Value.kind, ElementKind.isPlain], written, short⟩
  obtain ⟨inner, encoded, small, found⟩ := whole.document_eq (rfl : Document.get? _ "$query" = _)
  obtain ⟨projection, chosen, read⟩ :=
    told.ofFields?_eq ⟨told.plain, encoded, small⟩ query.options.prefersOthers
  -- Both the wrapper and the flag tell of other members, and they tell the same.
  have others : parts.query.prefersOthers? = some query.options.prefersOthers := by
    rw [QueryOptions.prefersOthers, ← secondaryPreference_command, preferred]
    refine whole.prefersOthers?_eq ?_ rfl
    rw [← preferred]
    exact allowsSecondary_of_mem
  have there : parts.query.documentOrNone? "$query" = some (some inner) := by
    simp only [RawDocument.documentOrNone?, found]
  refine ⟨projection, chosen, ?_⟩
  simp only [Inquiry.ofCommandParts?, there, others, flag, Option.bind_eq_bind, Option.bind_some,
    Bool.or_self]
  exact read

/-- A find command in a query asks for what the options ask for, whether a preference stands beside
it or not. -/
theorem ofFind?_query (queries : description.hasMessages = false)
    (framed : query.command.request description = .ok request)
    (encoded : request.encode id = .ok bytes) :
    ∃ projection, query.options.projection.mapM (·.encode) = Except.ok projection ∧
      Inquiry.ofFind? bytes = some (query.options.asked false projection) := by
  obtain ⟨length, body, coded, header, small⟩ := Write.opened?_encode encoded
  obtain ⟨raw, written, rfl⟩ := Write.request_query rfl queries framed
  have short := Write.length_query_le coded small
  have read := QueryParts.read_query coded (Document.measured_encode written short) nofun
  have database := Write.commandDatabase?_text query.command.database
  simp only [Inquiry.ofFind?, header, Request.opCode, read, Except.toOption, Option.bind_eq_bind,
    Option.bind_some, database]
  -- A preference is told to routers alone; the flag tells of it in any case.
  unfold Command.queryBody at written
  cases preferred : query.command.secondaryPreference with
  | none =>
    rw [preferred] at written
    exact ofCommandParts?_body written short (congrArg Option.isSome preferred.symm)
  | some preference =>
    rw [preferred] at written
    dsimp only at written
    split at written
    · exact ofCommandParts?_wrapped preferred written short (congrArg Option.isSome preferred.symm)
    · exact ofCommandParts?_body written short (congrArg Option.isSome preferred.symm)

end Query

/-- Work that has asked something, and then sends nothing more, has asked the same. -/
theorem Write.Asked.bind {α β : Type} {framed : Except Cause Request} {line : Line}
    {work : Exchange α} {next : α → Exchange β} (asked : Write.Asked framed line (work line))
    (quiet : ∀ value, Work.Keeps (·.network.sent) (next value)) :
    Write.Asked framed line ((work >>= next) line) := by
  rw [Work.bind_apply]
  -- The first part has sent its request or nothing, and what follows sends nothing more.
  rcases ended : work line with ⟨halt | value, middle⟩ <;> rw [ended] at asked
  · rcases asked with ⟨same, -⟩ | ⟨request, id, bytes, made, encoded, posted⟩
    · exact .inl ⟨same, halt, rfl⟩
    · exact .inr ⟨request, id, bytes, made, encoded, posted⟩
  · rcases asked with ⟨-, halt, failed⟩ | ⟨request, id, bytes, made, encoded, posted⟩
    · cases failed
    · exact .inr ⟨request, id, bytes, made, encoded, (quiet value middle).trans posted⟩

/-- A command that is answered is all that is sent. -/
theorem asked_sendCommand (command : Command) (context : Correlation) (line : Line) :
    Write.Asked (command.request line.connection.description) line
      (sendCommand command context line) := by
  unfold sendCommand
  rw [Work.bind_apply, Work.get_apply]
  refine Write.asked_check_send line fun request response => ?_
  cases response with
  | none => exact .throw _
  | some response =>
    exact .bind (Exchange.keeps_replyDocument (fun _ _ => rfl) _ _) fun _ =>
      .bind (Exchange.keeps_check _) fun _ => .pure _

namespace Query

/-- The request of a query in the dialect of the server. -/
def request (query : Query) (description : ConnectionDescription) : Except Cause Request :=
  if description.hasFindCommand then query.command.request description
  else query.legacyRequest description.type

/-- A query asks once, and reads the answer. -/
theorem asked_run {α : Type} (query : Query) (decoder : Decoder α) (line : Line) :
    Write.Asked (query.request line.connection.description) line (query.run decoder line) := by
  unfold run request
  rw [Work.bind_apply, Work.get_apply]
  dsimp only
  split
  · unfold runCommand
    rw [Work.bind_apply, Work.get_apply]
    exact (asked_sendCommand _ _ line).bind fun reply => (still_readBatch reply _ _ _).part Prod.snd
  · unfold runLegacy
    rw [Work.bind_apply, Work.get_apply]
    refine Write.asked_check_send line fun request response => ?_
    -- To judge the reply sends nothing.
    exact .bind (Exchange.keeps_check _) fun reply =>
      .bind ((still_classify reply _ _).part Prod.snd) fun _ => .pure _

end Query

end DocWire
