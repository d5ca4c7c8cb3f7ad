import DocWire.Cursor.Batch

/-! Queries: the first batch of what a filter picks, in the dialect of the server. -/

namespace DocWire

/-- The options of a query. -/
structure QueryOptions where
  skip : Int32 := 0
  limit : Int32 := 0
  batchSize : Int32 := 0
  projection : Option Document := none
  readPreference : Option ReadPreference := none
  secondaryOk : Bool := false
  tailable : Bool := false
  awaitData : Bool := false
  noCursorTimeout : Bool := false
  partialResults : Bool := false
  oplogReplay : Bool := false
deriving Repr, Inhabited

/-- A query of a collection. -/
structure Query where
  target : Namespace
  filter : Document
  options : QueryOptions := {}
  context : Correlation := {}
deriving Repr, Inhabited

/-- The size of a word; the least word has the size of the greatest. -/
def magnitude (word : Int32) : Int32 :=
  if word = Int32.minValue then Int32.maxValue else if word < 0 then -word else word

/-- The lesser of two words. -/
def lesser (a b : Int32) : Int32 := if a ≤ b then a else b

namespace QueryOptions

/-- How many documents a legacy reply is to hold; a negative number asks to close the cursor too. -/
def toReturn (options : QueryOptions) : Int32 :=
  -- A negative limit asks for one reply and no cursor, so the batch size does not matter.
  if options.limit < 0 then options.limit
  else if options.limit = 0 then options.batchSize
  else if options.batchSize = 0 then options.limit
  else if options.batchSize < 0 then
    -- The sign of the batch size goes to the lesser of the two sizes.
    -(lesser (magnitude options.limit) (magnitude options.batchSize))
  else lesser options.limit options.batchSize

/-- Whether a secondary may answer. -/
def allowsSecondary (options : QueryOptions) : Bool :=
  options.secondaryOk || (options.readPreference.map (·.allowsSecondary)).getD false

/-- The flags of a legacy query. -/
def flags (options : QueryOptions) : QueryFlags where
  secondaryOk := options.allowsSecondary
  tailable := options.tailable
  awaitData := options.awaitData
  noCursorTimeout := options.noCursorTimeout
  partialResults := options.partialResults
  oplogReplay := options.oplogReplay

/-- The fields of the options that are set, as the command takes them. -/
def fields (options : QueryOptions) : List (String × Value) :=
  -- Numbers that are zero, and flags that are not set, are left out.
  (if 0 < options.skip then [("skip", Value.int32 options.skip)] else []) ++
  (if options.limit < 0 then
    [("limit", .int32 (magnitude options.limit)), ("singleBatch", .boolean true)]
  else if 0 < options.limit then [("limit", .int32 options.limit)]
  else []) ++
  (if options.batchSize = 0 then [] else [("batchSize", .int32 (magnitude options.batchSize))]) ++
  (options.projection.map fun fields => ("projection", Value.document fields)).toList ++
  ([("tailable", options.tailable), ("awaitData", options.awaitData),
    ("noCursorTimeout", options.noCursorTimeout), ("allowPartialResults", options.partialResults),
    ("oplogReplay", options.oplogReplay)].filter (·.2)).map fun (name, _) =>
      (name, Value.boolean true)

end QueryOptions

namespace Query

/-- The body of the command. -/
def body (query : Query) : Document :=
  [("find", .string query.target.collection), ("filter", .document query.filter)] ++
    query.options.fields

/-- The query as a command. -/
def command (query : Query) : Command where
  database := query.target.database
  body := query.body
  readPreference := query.options.readPreference

/-- The document of the legacy query; routers are told a preference for other members beside it. -/
def legacyBody (query : Query) (type : ServerType) : Document :=
  match query.options.readPreference.filter (·.allowsSecondary) with
  | some preference =>
    -- Members of a replica set see the flag and need not be told.
    if type = .mongos then Command.wrapped query.filter preference else query.filter
  | none => query.filter

/-- The query as a request of the legacy framing. -/
def legacyRequest (query : Query) (type : ServerType) : Except Cause Request := do
  -- The filter is judged before the projection.
  let body ← (query.legacyBody type).encode
  let fields ← query.options.projection.mapM fun projection => projection.encode
  return .query {
    flags := query.options.flags
    target := query.target
    skip := query.options.skip
    toReturn := query.options.toReturn
    query := body
    fields }

/-- Runs the query as a command. -/
def runCommand {α : Type} (query : Query) (decoder : Decoder α) : Exchange (Batch α) := do
  let line ← get
  let reply ← sendCommand query.command query.context
  readBatch reply "firstBatch" query.target line.connection.id.address decoder

/-- Runs the query as a legacy request. -/
def runLegacy {α : Type} (query : Query) (decoder : Decoder α) : Exchange (Batch α) := do
  let line ← get
  let address := line.connection.id.address
  let request ← Exchange.check (query.legacyRequest line.connection.description.type)
  let response ← send request query.context
  let reply ← Exchange.check (expectReply response)
  let results ← classify reply decoder 0 address
  return Batch.ofCursor query.target results reply.cursor address

/-- Runs the query in the dialect of the server. -/
def run {α : Type} (query : Query) (decoder : Decoder α) : Exchange (Batch α) := do
  if (← get).connection.description.hasFindCommand then query.runCommand decoder
  else query.runLegacy decoder

end Query
end DocWire
