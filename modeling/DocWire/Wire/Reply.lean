import DocWire.Wire.Flags
import DocWire.Wire.Reader

/-! Replies of the legacy framing: flags, a cursor and documents up to the end. -/

namespace DocWire

/-- A reply of the legacy framing. -/
structure Reply where
  flags : ReplyFlags := {}
  cursor : Int64 := 0
  startingFrom : Int32 := 0
  count : Int32 := 0
  documents : List RawDocument := []
deriving DecidableEq, Repr, Inhabited

/-- Reads a reply from what follows its header; the documents have to be as many as it says. -/
def Reply.read (bytes : Bytes) : Except Cause Reply := do
  let (word, bytes) ← readUInt32 bytes
  let (cursor, bytes) ← readInt64 bytes
  let (startingFrom, bytes) ← readInt32 bytes
  let (count, bytes) ← readInt32 bytes
  -- Every document is framed before the count is compared.
  let documents ← readDocuments bytes
  if count.toInt = documents.length then
    return { flags := ReplyFlags.ofWord word, cursor, startingFrom, count, documents }
  else badResponse (.documentCount count documents.length)

end DocWire
