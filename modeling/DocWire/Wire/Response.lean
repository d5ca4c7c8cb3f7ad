import DocWire.Wire.Message
import DocWire.Wire.Reply

/-! Responses read off a stream, one frame at a time. -/

namespace DocWire

/-- What a server sends back. -/
inductive Response where
  | reply (reply : Reply)
  | message (message : Message)
deriving DecidableEq, Repr, Inhabited

/-- The header of a message. -/
structure Header where
  length : Int32
  id : Int32
  answering : Int32
  code : OpCode
deriving DecidableEq, Repr, Inhabited

/-- What stands at the front of a stream. -/
inductive Incoming where
  | incomplete
  | broken (fault : ResponseFault)
  | frame (header : Header) (body rest : Bytes)
deriving DecidableEq, Repr, Inhabited

/-- The word at a place of a header. -/
def wordAt (bytes : Bytes) (place : Nat) : Int32 := Bytes.toInt32 ((bytes.drop place).take 4)

/-- The header that sixteen bytes spell, when its code is known. -/
def Header.ofBytes (bytes : Bytes) : Except ResponseFault Header :=
  let number := wordAt bytes 12
  match OpCode.ofNumber? number with
  -- The code is judged before the length.
  | none => .error (.unknownOpCode number)
  | some code => .ok ⟨wordAt bytes 0, wordAt bytes 4, wordAt bytes 8, code⟩

/-- How long the body after a header is, when the length of the whole is within its bounds. -/
def Header.bodyLength (header : Header) (limit : Int32) : Except ResponseFault Nat :=
  -- The upper bound is judged before the lower one.
  if limit < header.length then .error (.messageTooLong header.length limit)
  else if header.length.toInt < headerLength then .error (.messageLength header.length)
  else .ok (header.length.toInt.toNat - headerLength)

/-- The frame at the front of the bytes that have arrived so far. -/
def Incoming.read (limit : Int32) (arrived : Bytes) : Incoming :=
  match Bytes.split? headerLength arrived with
  | none => incomplete
  | some (front, after) =>
    match Header.ofBytes front with
    | .error fault => broken fault
    | .ok header =>
      match header.bodyLength limit with
      | .error fault => broken fault
      | .ok length =>
        match Bytes.split? length after with
        | none => incomplete
        | some (body, rest) => frame header body rest

/-- The response that a frame holds. -/
def Response.read (header : Header) (body : Bytes) : Except Cause Response :=
  match header.code with
  | .reply => (Reply.read body).map reply
  | .message => (Message.read header.length body).map message
  -- Known codes of requests are no answers.
  | code => badResponse (.unexpectedOpCode code)

/-- The response that a frame holds, when it answers the request. -/
def Response.answer (request : Int32) (header : Header) (body : Bytes) : Except Cause Response := do
  -- A body that cannot be read is told before an answer to another request.
  let response ← Response.read header body
  if header.answering = request then return response
  else badResponse (.otherRequest request header.answering)

end DocWire
