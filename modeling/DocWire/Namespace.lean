import DocWire.Document.Record

/-! Namespaces: a database and a collection in it. -/

namespace DocWire

/-- The full name of a collection. -/
structure Namespace where
  database : String
  collection : String
deriving DecidableEq, Repr, Inhabited

namespace Namespace

/-- The namespace that commands to a database are sent to. -/
def ofCommands (database : String) : Namespace := ⟨database, "$cmd"⟩

/-- Whether the namespace takes commands. -/
def takesCommands (ns : Namespace) : Bool := ns.collection == "$cmd"

/-- The database and the collection, joined by a dot. -/
def text (ns : Namespace) : String := ns.database ++ "." ++ ns.collection

/-- Splits a text at its first dot, when neither side is empty. -/
def parse? (text : String) : Option Namespace :=
  let database := text.toList.takeWhile (· ≠ '.')
  -- The collection keeps every further dot.
  match text.toList.dropWhile (· ≠ '.') with
  | [] => none
  | _ :: collection =>
    if database = [] ∨ collection = [] then none
    else some ⟨String.ofList database, String.ofList collection⟩

/-- The namespace that a value holds as text. -/
def ofValue? (value : RawValue) : Option Namespace := value.text?.bind parse?

end Namespace
end DocWire
