import DocWire.Connection.Exchange
import DocWire.Document.Decoding
import DocWire.Document.Record

/-! Decoders: what is made of the documents of a successful reply. -/

namespace DocWire

/-- Makes a value of a document, or ends the work. -/
abbrev Decoder (α : Type) := RawDocument → Except Halt α

/-- A record of a few typed fields. -/
structure Item where
  id : Int32
  name : String
  score : Option Int64
deriving DecidableEq, Repr, Inhabited

/-- The record that a raw document holds, whatever else is in it. -/
def Item.ofRaw? (document : RawDocument) : Option Item := do
  let record ← Record.ofValue? ["_id", "name", "score"] document.found
  let id ← record.required? 0 ["_id"] RawValue.word?
  let name ← record.required? 1 ["name"] RawValue.text?
  let score ← record.optional? 2 ["score"] RawValue.longWord?
  return { id, name, score }

/-- What the decoders of this library make of documents. -/
inductive Decoded where
  | document (document : Document)
  | item (item : Item)
  | bytes (bytes : Bytes)
deriving Repr, Inhabited

namespace Decoder

/-- Reads whole documents. -/
def document : Decoder Decoded := fun raw =>
  match raw.toDocument? with
  | some document => .ok (.document document)
  -- Bytes that are no document are the server's fault.
  | none => .error (.ofCause (.response .malformed))

/-- Reads typed records. -/
def item : Decoder Decoded := fun raw =>
  match Item.ofRaw? raw with
  | some item => .ok (.item item)
  -- Bad bytes and documents of another shape are told alike here.
  | none => .error (.ofCause .undecodable)

/-- Hands the bytes on. -/
def bytes : Decoder Decoded := fun raw => .ok (.bytes raw.bytes)

/-- Never reads anything. -/
def failing : Decoder Decoded := fun _ => .error (.ofCause (.stream .other))

/-- Gives up without an error. -/
def panicking : Decoder Decoded := fun _ => .error .panicked

end Decoder
end DocWire
