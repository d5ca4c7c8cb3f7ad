import DocWire.Connection.Channel
import DocWire.Document.Encoding

/-! Scripts for a server: what it sends on each message, right or wrong. -/

namespace DocWire

/-- The request that a frame claims to answer. -/
inductive Answering where
  | request
  | offset (delta : Int32)
  | fixed (id : Int32)
deriving DecidableEq, Repr, Inhabited

/-- A section of a scripted message. -/
inductive ScriptedSection where
  | body (document : Document)
  | sequence (kind : UInt8) (size : Option Int32) (identifier : String) (documents : List Document)
  | bytes (bytes : Bytes)
deriving Repr, Inhabited

/-- A document of a scripted reply. -/
inductive ScriptedDocument where
  | document (document : Document)
  | bytes (bytes : Bytes)
deriving Repr, Inhabited

/-- What a scripted frame holds after its header. -/
inductive ScriptedBody where
  | message (flags : UInt32) (sections : List ScriptedSection)
  | reply (flags : UInt32) (cursor : Int64) (start : Int32) (count : Option Int32)
    (documents : List ScriptedDocument)
  | bytes (bytes : Bytes)
deriving Repr, Inhabited

/-- A frame that the server sends, with any field of its header made wrong at will. -/
structure ScriptedFrame where
  body : ScriptedBody
  code : Option Int32 := none
  length : Option Int32 := none
  id : Int32 := 0
  answering : Answering := .request
  cut : Option Nat := none
  hangsUp : Bool := false
  delay : Nat := 0
deriving Repr, Inhabited

/-- What the server does on a message. -/
inductive Reaction where
  | silent
  | hangUp
  | frame (frame : ScriptedFrame)
  | several (reactions : List Reaction)
deriving Repr, Inhabited

/-- The bytes of a document of a script. -/
def scriptedBytes (document : Document) : Bytes :=
  -- What has no bytes is left out of the script.
  ((encodeFields? document).map enclosed).getD []

/-- The bytes of a section: its kind, and for a sequence its size and its name. -/
def ScriptedSection.encode : ScriptedSection → Bytes
  | body document => 0 :: scriptedBytes document
  | sequence kind size identifier documents =>
    let content := Bytes.ofString identifier ++ [0] ++ documents.flatMap scriptedBytes
    -- A size that is given may be wrong; any other is right.
    let size := (size.map Bytes.ofInt32).getD (Bytes.ofNat 4 (content.length + 4))
    kind :: (size ++ content)
  | .bytes raw => raw

/-- The bytes of a document of a reply. -/
def ScriptedDocument.encode : ScriptedDocument → Bytes
  | .document whole => scriptedBytes whole
  | .bytes raw => raw

namespace ScriptedBody

/-- The code of a frame with this body, unless another is given. -/
def code : ScriptedBody → Int32
  | message .. => 2013
  | reply .. => 1
  | bytes _ => 2013

/-- The bytes of the body. -/
def encode : ScriptedBody → Bytes
  | message flags sections => Bytes.ofUInt32 flags ++ sections.flatMap (·.encode)
  | reply flags cursor start count documents =>
    let count := (count.map Bytes.ofInt32).getD (Bytes.ofNat 4 documents.length)
    Bytes.ofUInt32 flags ++ Bytes.ofInt64 cursor ++ Bytes.ofInt32 start ++ count ++
      documents.flatMap (·.encode)
  | .bytes raw => raw

end ScriptedBody

namespace ScriptedFrame

/-- The id that the frame claims to answer. -/
def answered (frame : ScriptedFrame) (request : Int32) : Int32 :=
  match frame.answering with
  | .request => request
  | .offset delta => request + delta
  | .fixed id => id

/-- The whole frame. -/
def encode (frame : ScriptedFrame) (request : Int32) : Bytes :=
  let body := frame.body.encode
  -- A length that is given stands in the header only; all of the body is sent.
  let length := (frame.length.map Bytes.ofInt32).getD (Bytes.ofNat 4 (body.length + 16))
  length ++ Bytes.ofInt32 frame.id ++ Bytes.ofInt32 (frame.answered request) ++
    Bytes.ofInt32 (frame.code.getD frame.body.code) ++ body

/-- What is sent of the frame, when, and whether the server hangs up after it. -/
def delivery (frame : ScriptedFrame) (request : Int32) : Delivery :=
  -- A cut beyond the end takes nothing away.
  let bytes := frame.encode request
  { delay := frame.delay, bytes := bytes.take (frame.cut.getD bytes.length)
    hangsUp := frame.hangsUp }

end ScriptedFrame

mutual

/-- What the server does on a message with an id. -/
def Reaction.deliveries (request : Int32) : Reaction → List Delivery
  | .silent => []
  | .hangUp => [{ hangsUp := true }]
  | .frame frame => [frame.delivery request]
  | .several reactions => deliveriesOf request reactions

/-- What the server does, one reaction after another. -/
def deliveriesOf (request : Int32) : List Reaction → List Delivery
  | [] => []
  | reaction :: rest => reaction.deliveries request ++ deliveriesOf request rest

end

/-- The reaction as a behaviour. -/
def Reaction.behaviour (reaction : Reaction) : Behaviour := fun request =>
  reaction.deliveries request

end DocWire
