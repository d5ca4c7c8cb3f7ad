import DocWire.Document.Raw
import DocWire.Error.Basic

/-! Reading words, texts and documents off the front of a message body. -/

namespace DocWire

/-- What is wrong with the bytes of a response. -/
def badResponse {α : Type} (fault : ResponseFault) : Except Cause α := .error (.response fault)

/-- The first `count` bytes; a body that ends before them is an end of the stream. -/
def readBytes (count : Nat) (bytes : Bytes) : Except Cause (Bytes × Bytes) :=
  match Bytes.split? count bytes with
  | some cut => .ok cut
  | none => .error (.stream .endOfStream)

/-- A signed word. -/
def readInt32 (bytes : Bytes) : Except Cause (Int32 × Bytes) := do
  let (word, rest) ← readBytes 4 bytes
  return (Bytes.toInt32 word, rest)

/-- A signed long word. -/
def readInt64 (bytes : Bytes) : Except Cause (Int64 × Bytes) := do
  let (word, rest) ← readBytes 8 bytes
  return (Bytes.toInt64 word, rest)

/-- An unsigned word. -/
def readUInt32 (bytes : Bytes) : Except Cause (UInt32 × Bytes) := do
  let (word, rest) ← readBytes 4 bytes
  return (Bytes.toUInt32 word, rest)

/-- A text that ends in a zero. -/
def readZeroTerminated (bytes : Bytes) : Except Cause (String × Bytes) :=
  match Bytes.splitAtZero? bytes with
  | none => .error (.stream .endOfStream)
  | some (front, rest) =>
    match Bytes.toString? front with
    -- The end of the text is looked for before its bytes are judged.
    | none => badResponse .malformed
    | some text => .ok (text, rest)

/-- A document as long as its first four bytes say. -/
def readDocument (bytes : Bytes) : Except Cause (RawDocument × Bytes) := do
  -- The length is looked at and stays with the document.
  let (length, _) ← readInt32 bytes
  if length < 5 then badResponse (.documentLength length)
  else
    let size := length.toInt.toNat
    match Bytes.split? size bytes with
    | none => badResponse (.documentCut size bytes.length)
    | some (front, rest) =>
      match RawDocument.ofBytes? front with
      | none => badResponse .malformed
      | some document => .ok (document, rest)

/-- A document that was read comes off the front, and it is not empty. -/
theorem length_readDocument {bytes rest : Bytes} {document : RawDocument}
    (found : readDocument bytes = .ok (document, rest)) : rest.length < bytes.length := by
  -- The length is at least five, and that many bytes are taken.
  cases word : readInt32 bytes with
  | error cause => simp [readDocument, word, bind, Except.bind] at found
  | ok read =>
    obtain ⟨length, _⟩ := read
    simp only [readDocument, word, bind, Except.bind, badResponse, Bytes.split?] at found
    split at found
    · cases found
    · rename_i large
      have positive : 5 ≤ length.toInt.toNat := by
        simp only [Int32.lt_iff_toInt_lt, Int.not_lt] at large
        have five : (5 : Int32).toInt = 5 := rfl
        omega
      split at found
      · cases found
      · rename_i cut
        split at cut
        · simp only [Option.some.injEq, Prod.mk.injEq] at cut
          obtain ⟨rfl, rfl⟩ := cut
          split at found
          · cases found
          · simp only [Except.ok.injEq, Prod.mk.injEq] at found
            obtain ⟨_, rfl⟩ := found
            simp only [List.length_drop]
            omega
        · cases cut

/-- Documents up to the end of the bytes. -/
def readDocuments (bytes : Bytes) : Except Cause (List RawDocument) :=
  if bytes.isEmpty then .ok []
  else
    match found : readDocument bytes with
    | .error cause => .error cause
    | .ok (document, rest) =>
      have := length_readDocument found
      match readDocuments rest with
      | .error cause => .error cause
      | .ok others => .ok (document :: others)
termination_by bytes.length

end DocWire
