import DocWire.Wire.Flags
import DocWire.Wire.Reader

/-! Messages of the current framing: flags, one body document and any number of document runs. -/

namespace DocWire

/-- The room that the header of every message takes. -/
def headerLength : Nat := 16

/-- The largest number that a signed word holds. -/
def largestWord : Nat := 0x7fffffff

/-- A refusal of what the caller asked for. -/
def refuse {α : Type} (fault : ArgumentFault) : Except Cause α := .error (.argument fault)

/-- Documents that travel beside the body under a name. -/
structure DocumentSequence where
  identifier : String
  documents : List RawDocument
deriving DecidableEq, Repr, Inhabited

/-- A message of the current framing. -/
structure Message where
  flags : MessageFlags := {}
  body : RawDocument
  sequences : List DocumentSequence := []
deriving DecidableEq, Repr, Inhabited

namespace DocumentSequence

/-- The bytes of the documents, one after another. -/
def content (sequence : DocumentSequence) : Bytes := sequence.documents.flatMap (·.bytes)

/-- How many bytes the section takes after its kind byte. -/
def size (sequence : DocumentSequence) : Nat :=
  4 + (Bytes.ofString sequence.identifier).length + 1 + sequence.content.length

/-- The section that holds the documents. -/
def encode (sequence : DocumentSequence) : Except Cause Bytes :=
  -- The size counts itself and the name with its zero.
  if largestWord < sequence.size then refuse .sequenceTooLarge
  else .ok ([1] ++ Bytes.ofNat 4 sequence.size ++ Bytes.ofString sequence.identifier ++ [0] ++
    sequence.content)

end DocumentSequence

/-- The sections of all runs of documents. -/
def encodeSequences : List DocumentSequence → Except Cause Bytes
  | [] => .ok []
  | sequence :: rest => do
    let front ← sequence.encode
    let back ← encodeSequences rest
    return front ++ back

/-- The message without its header. -/
def Message.encode (message : Message) : Except Cause Bytes := do
  let sections ← encodeSequences message.sequences
  return Bytes.ofUInt32 message.flags.toWord ++ [0] ++ message.body.bytes ++ sections

/-- One section of a message. -/
inductive Section where
  | body (document : RawDocument)
  | sequence (sequence : DocumentSequence)
deriving DecidableEq, Repr, Inhabited

/-- Documents that fill exactly `length` bytes of a section with a declared size. -/
def readRun (declared : Int32) (length : Nat) (bytes : Bytes) :
    Except Cause (List RawDocument × Bytes) :=
  if length = 0 then .ok ([], bytes)
  else
    match found : readDocument bytes with
    | .error cause => .error cause
    | .ok (document, rest) =>
      have := length_readDocument found
      let size := document.bytes.length
      -- A document may not reach beyond its section, though the message may go on.
      if length < size then
        badResponse (.sizeMismatch declared (declared.toInt.toNat + (size - length)))
      else
        match readRun declared (length - size) rest with
        | .error cause => .error cause
        | .ok (others, rest) => .ok (document :: others, rest)
termination_by bytes.length

/-- The section of a run of documents, after its kind byte. -/
def readSequence (bytes : Bytes) : Except Cause (DocumentSequence × Bytes) := do
  let (declared, bytes) ← readInt32 bytes
  -- The size counts its own four bytes.
  if declared < 4 then badResponse (.sectionSize declared)
  else
    let (identifier, bytes) ← readZeroTerminated bytes
    let named := (Bytes.ofString identifier).length + 1
    let length := declared.toInt.toNat - 4
    if length < named then badResponse .identifierTooLong
    else
      let (documents, rest) ← readRun declared (length - named) bytes
      return (⟨identifier, documents⟩, rest)

/-- The section at the front: a body where the kind byte is zero, else a run of documents. -/
def readSection (bytes : Bytes) : Except Cause (Section × Bytes) :=
  match bytes with
  | [] => .error (.stream .endOfStream)
  | kind :: bytes =>
    -- Every kind but zero is taken for a run.
    if kind = 0 then do
      let (document, rest) ← readDocument bytes
      return (.body document, rest)
    else do
      let (sequence, rest) ← readSequence bytes
      return (.sequence sequence, rest)

/-- A text that ends in a zero comes off the front with its zero. -/
theorem length_readZeroTerminated {bytes rest : Bytes} {text : String}
    (found : readZeroTerminated bytes = .ok (text, rest)) : rest.length < bytes.length := by
  -- The cut at the first zero loses at least that zero.
  simp only [readZeroTerminated, badResponse] at found
  split at found
  · cases found
  · rename_i cut
    split at found
    · cases found
    · simp only [Except.ok.injEq, Prod.mk.injEq] at found
      obtain ⟨_, rfl⟩ := found
      have := length_splitAtZero? cut
      omega

/-- A run of documents leaves no more bytes than it was given. -/
theorem length_readRun {declared : Int32} {length : Nat} {bytes rest : Bytes}
    {documents : List RawDocument} (found : readRun declared length bytes = .ok (documents, rest)) :
    rest.length ≤ bytes.length := by
  -- Each document read makes the rest shorter, and an empty run leaves it alone.
  fun_induction readRun declared length bytes generalizing documents with
  | case1 bytes =>
    simp only [Except.ok.injEq, Prod.mk.injEq] at found
    obtain ⟨_, rfl⟩ := found
    exact Nat.le_refl _
  | case2 => cases found
  | case3 => cases found
  | case4 => cases found
  | case5 =>
    rename_i shorter _ _ _ _ inner ih
    simp only [Except.ok.injEq, Prod.mk.injEq] at found
    obtain ⟨_, rfl⟩ := found
    have := ih inner
    omega

/-- The bytes that follow four bytes of a word. -/
theorem length_readInt32 {bytes rest : Bytes} {word : Int32}
    (found : readInt32 bytes = .ok (word, rest)) : rest.length + 4 = bytes.length := by
  -- Reading a word is a cut after four bytes.
  simp only [readInt32, readBytes, Bytes.split?, bind, Except.bind, pure, Except.pure] at found
  split at found
  · cases found
  · rename_i cut
    split at cut
    · rename_i split
      split at split
      · simp only [Option.some.injEq] at split
        subst split
        simp only [Except.ok.injEq] at cut
        subst cut
        simp only [Except.ok.injEq, Prod.mk.injEq] at found
        obtain ⟨_, rfl⟩ := found
        simp only [List.length_drop]
        omega
      · cases split
    · cases cut

/-- A section of documents takes its size and its name off the front. -/
theorem length_readSequence {bytes rest : Bytes} {sequence : DocumentSequence}
    (found : readSequence bytes = .ok (sequence, rest)) : rest.length < bytes.length := by
  -- The size alone takes four bytes.
  simp only [readSequence, badResponse, bind, Except.bind, pure, Except.pure] at found
  split at found
  · cases found
  · rename_i word
    split at found
    · cases found
    · split at found
      · cases found
      · rename_i named
        split at found
        · cases found
        · split at found
          · cases found
          · rename_i run
            simp only [Except.ok.injEq, Prod.mk.injEq] at found
            obtain ⟨_, rfl⟩ := found
            have := length_readInt32 word
            have := length_readZeroTerminated named
            have := length_readRun run
            omega

/-- A section that was read comes off the front, and it is not empty. -/
theorem length_readSection {bytes rest : Bytes} {part : Section}
    (found : readSection bytes = .ok (part, rest)) : rest.length < bytes.length := by
  -- The kind byte alone makes the difference.
  cases bytes with
  | nil => cases found
  | cons kind bytes =>
    simp only [readSection, bind, Except.bind, pure, Except.pure] at found
    split at found
    · split at found
      · cases found
      · rename_i document
        simp only [Except.ok.injEq, Prod.mk.injEq] at found
        obtain ⟨_, rfl⟩ := found
        have := length_readDocument document
        simp only [List.length_cons]
        omega
    · split at found
      · cases found
      · rename_i sequence
        simp only [Except.ok.injEq, Prod.mk.injEq] at found
        obtain ⟨_, rfl⟩ := found
        have := length_readSequence sequence
        simp only [List.length_cons]
        omega

/-- What the sections of a message hold. -/
structure Sections where
  body : Option RawDocument := none
  sequences : List DocumentSequence := []
deriving DecidableEq, Repr, Inhabited

/-- The sections in front of a trailer, and the bytes that are left; only one may be a body. -/
def readSections (trailer : Nat) (seen : Sections) (bytes : Bytes) :
    Except Cause (Sections × Bytes) :=
  -- What is no longer than the trailer belongs to no section.
  if bytes.length ≤ trailer then .ok (seen, bytes)
  else
    match found : readSection bytes with
    | .error cause => .error cause
    | .ok (.sequence sequence, rest) =>
      have := length_readSection found
      readSections trailer { seen with sequences := seen.sequences ++ [sequence] } rest
    | .ok (.body document, rest) =>
      have := length_readSection found
      if seen.body.isSome then badResponse .bodySections
      else readSections trailer { seen with body := some document } rest
termination_by bytes.length

/-- Reads a message from what follows a header, which declared a length for the whole. -/
def Message.read (declared : Int32) (bytes : Bytes) : Except Cause Message := do
  let (word, bytes) ← readUInt32 bytes
  let flags := MessageFlags.ofWord word
  -- The checksum is left unread, only its room is kept free.
  let trailer := if flags.checksumPresent then 4 else 0
  if bytes.length < trailer then badResponse .checksumCut
  else
    let (sections, rest) ← readSections trailer {} bytes
    if rest.length ≠ trailer then
      let found := headerLength + 4 + (bytes.length - rest.length) + trailer
      badResponse (.sizeMismatch declared found)
    else
      -- That the body is missing shows only when all sections have been read.
      match sections.body with
      | none => badResponse .bodySections
      | some body => return { flags, body, sequences := sections.sequences }

end DocWire
