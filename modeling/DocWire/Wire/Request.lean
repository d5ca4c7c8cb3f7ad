import DocWire.Wire.Legacy

/-! Requests of either framing, and the frame around them. -/

namespace DocWire

/-- What is sent to a server. -/
inductive Request where
  | message (message : Message)
  | query (query : LegacyQuery)
  | getMore (request : LegacyGetMore)
  | killCursors (request : LegacyKillCursors)
  | insert (insert : LegacyInsert)
  | update (update : LegacyUpdate)
  | delete (delete : LegacyDelete)
deriving DecidableEq, Repr, Inhabited

namespace Request

/-- The code that tells what kind of request it is. -/
def opCode : Request → OpCode
  | message _ => .message
  | query _ => .query
  | getMore _ => .getMore
  | killCursors _ => .killCursors
  | insert _ => .insert
  | update _ => .update
  | delete _ => .delete

/-- What events call the request. -/
def name : Request → String
  | message _ => "OP_MSG"
  | query _ => "OP_QUERY"
  | getMore _ => "OP_GET_MORE"
  | killCursors _ => "OP_KILL_CURSORS"
  | insert _ => "OP_INSERT"
  | update _ => "OP_UPDATE"
  | delete _ => "OP_DELETE"

/-- Whether the server answers the request. -/
def expectsResponse : Request → Bool
  -- The flag tells the server that nobody waits.
  | .message content => !content.flags.moreToCome
  | .query _ | .getMore _ => true
  | .killCursors _ | .insert _ | .update _ | .delete _ => false

/-- The request without its header. -/
def encodeBody : Request → Except Cause Bytes
  | .message content => content.encode
  | .query content => content.encode
  | .getMore content => content.encode
  | .killCursors content => content.encode
  | .insert content => content.encode
  | .update content => content.encode
  | .delete content => content.encode

end Request

/-- A header and the body after it; the length of both has to fit a word. -/
def frame (code : OpCode) (id answering : Int32) (body : Bytes) : Except Cause Bytes :=
  let length := headerLength + body.length
  -- The length counts the header.
  if largestWord < length then refuse (.bodyTooLarge body.length)
  else .ok (Bytes.ofNat 4 length ++ Bytes.ofInt32 id ++ Bytes.ofInt32 answering ++
    Bytes.ofInt32 code.number ++ body)

/-- The whole message that carries a request. -/
def Request.encode (request : Request) (id : Int32) : Except Cause Bytes := do
  let body ← request.encodeBody
  -- A request answers nothing, which is id zero.
  frame request.opCode id 0 body

end DocWire
