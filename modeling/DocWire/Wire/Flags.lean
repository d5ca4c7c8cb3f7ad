import DocWire.Bytes

/-! The flag words of messages, read by their known bits. -/

namespace DocWire

/-- A word with one bit, when the flag is set. -/
def bitIf (flag : Bool) (place : Nat) : Nat := if flag then Nat.pow 2 place else 0

/-- Whether a word has a bit. -/
def hasBit (word : UInt32) (place : Nat) : Bool := word.toNat.testBit place

/-- The flags of a message of the current framing. -/
structure MessageFlags where
  checksumPresent : Bool := false
  moreToCome : Bool := false
  exhaustAllowed : Bool := false
deriving DecidableEq, Repr, Inhabited

/-- The word of the flags. -/
def MessageFlags.toWord (flags : MessageFlags) : UInt32 :=
  -- The low half of the word holds what a reader has to understand.
  UInt32.ofNat (bitIf flags.checksumPresent 0 + bitIf flags.moreToCome 1 +
    bitIf flags.exhaustAllowed 16)

/-- The known flags of a word. -/
def MessageFlags.ofWord (word : UInt32) : MessageFlags :=
  -- Unknown bits are passed over in both halves.
  ⟨hasBit word 0, hasBit word 1, hasBit word 16⟩

/-- The flags of a legacy reply. -/
structure ReplyFlags where
  cursorNotFound : Bool := false
  queryFailure : Bool := false
  awaitCapable : Bool := false
deriving DecidableEq, Repr, Inhabited

/-- The known flags of a word. -/
def ReplyFlags.ofWord (word : UInt32) : ReplyFlags :=
  ⟨hasBit word 0, hasBit word 1, hasBit word 3⟩

/-- The flags of a legacy query. -/
structure QueryFlags where
  tailable : Bool := false
  secondaryOk : Bool := false
  oplogReplay : Bool := false
  noCursorTimeout : Bool := false
  awaitData : Bool := false
  exhaust : Bool := false
  partialResults : Bool := false
deriving DecidableEq, Repr, Inhabited

/-- The word of the flags. -/
def QueryFlags.toWord (flags : QueryFlags) : UInt32 :=
  -- No query of this library asks for the exhaust flag, but it has its place among the others.
  UInt32.ofNat (bitIf flags.tailable 1 + bitIf flags.secondaryOk 2 + bitIf flags.oplogReplay 3 +
    bitIf flags.noCursorTimeout 4 + bitIf flags.awaitData 5 + bitIf flags.exhaust 6 +
    bitIf flags.partialResults 7)

/-- The flags of a legacy update. -/
structure UpdateFlags where
  upsert : Bool := false
  multi : Bool := false
deriving DecidableEq, Repr, Inhabited

/-- The word of the flags. -/
def UpdateFlags.toWord (flags : UpdateFlags) : UInt32 :=
  UInt32.ofNat (bitIf flags.upsert 0 + bitIf flags.multi 1)

end DocWire
