import DocWire.Document.Record
import DocWire.Duration
import DocWire.Error.Argument

/-! The declared server interface, and the options of a topology. -/

namespace DocWire

/-- A version of the server interface. -/
inductive ApiVersion where
  | one
deriving DecidableEq, Repr, Inhabited

namespace ApiVersion

/-- The name of the version. -/
def text : ApiVersion → String
  | one => "1"

/-- Reads the name of a version. -/
def parse (text : String) : Except ArgumentFault ApiVersion :=
  if text = "1" then .ok one else .error (.apiVersion text)

/-- The version that a value holds as text. -/
def ofValue? (value : RawValue) : Option ApiVersion :=
  value.text?.bind fun t => (parse t).toOption

end ApiVersion

/-- The server interface that commands declare. -/
structure ServerApi where
  version : ApiVersion
  strict : Option Bool := none
  deprecationErrors : Option Bool := none
deriving DecidableEq, Repr, Inhabited

namespace ServerApi

/-- The fields that declare the interface, in order. -/
def toDocument (api : ServerApi) : Document :=
  ("apiVersion", .string api.version.text) ::
    (api.strict.map fun strict => ("apiStrict", Value.boolean strict)).toList ++
    (api.deprecationErrors.map fun errors => ("apiDeprecationErrors", Value.boolean errors)).toList

/-- Stamps a command with the interface. -/
def stamp (api : ServerApi) (command : Document) : Document :=
  -- A command that has such a field already loses its own value.
  command.extend api.toDocument

/-- The interface that a value declares. -/
def ofValue? (value : RawValue) : Option ServerApi := do
  let record ← Record.ofValue? ["apiVersion", "apiStrict", "apiDeprecationErrors"] value
  let version ← record.required? 0 ["apiVersion"] ApiVersion.ofValue?
  let strict ← record.optional? 1 ["apiStrict"] RawValue.truth?
  let deprecationErrors ← record.optional? 2 ["apiDeprecationErrors"] RawValue.truth?
  return { version, strict, deprecationErrors }

end ServerApi

/-- How servers are selected in a topology. -/
structure TopologyOptions where
  timeout : Duration := Duration.ofMillis 30000
  threshold : Duration := Duration.ofMillis 15
  api : Option ServerApi := none
deriving DecidableEq, Repr, Inhabited

/-- The options that a value holds. -/
def TopologyOptions.ofValue? (value : RawValue) : Option TopologyOptions := do
  let record ←
    Record.ofValue? ["serverSelectionTimeoutMS", "localThresholdMS", "serverApi"] value
  let defaults : TopologyOptions := {}
  -- Times are given in milliseconds and may not be null; the interface may.
  let millis (value : RawValue) := value.natural?.map Duration.ofMillis
  let timeout ← record.defaulted? 0 ["serverSelectionTimeoutMS"] defaults.timeout millis
  let threshold ← record.defaulted? 1 ["localThresholdMS"] defaults.threshold millis
  let api ← record.defaulted? 2 ["serverApi"] none (Record.orNull ServerApi.ofValue?)
  return { timeout, threshold, api }

end DocWire
