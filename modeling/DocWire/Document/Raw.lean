import DocWire.Document.Basic

/-! Raw documents: bytes framed as a document, read one element at a time. -/

namespace DocWire

/-- The bytes of a document, of which only the frame need be right. -/
structure RawDocument where
  bytes : Bytes
deriving DecidableEq, Repr, Inhabited

/-- A document has at least a length and a final zero, its length is that of all its bytes, and its
last byte is zero. -/
def framed (bytes : Bytes) : Bool :=
  5 ≤ bytes.length && Bytes.toNat (bytes.take 4) == bytes.length && bytes.getLast? == some 0

/-- The raw document of framed bytes. -/
def RawDocument.ofBytes? (bytes : Bytes) : Option RawDocument :=
  if framed bytes then some ⟨bytes⟩ else none

/-- An element whose extent is known and whose value is not read yet. -/
structure RawElement where
  key : String
  kind : ElementKind
  payload : Bytes
deriving DecidableEq, Repr, Inhabited

/-- A length that is not negative. -/
def readLength? (bytes : Bytes) : Option Nat := do
  let (word, _) ← Bytes.split? 4 bytes
  let length := (Bytes.toInt32 word).toInt
  -- Lengths are signed on the wire, so half of all words are none.
  if length < 0 then none else some length.toNat

/-- The size of a text with its length before it: at least a zero, and a zero at the end. -/
def textSize? (bytes : Bytes) : Option Nat := do
  let length ← readLength? bytes
  if length = 0 then none
  -- The zero is the last of the bytes that the length counts.
  else if bytes[length + 3]? = some 0 then some (length + 4)
  else none

/-- The size of an embedded document, whose frame has to be right. -/
def embeddedSize? (bytes : Bytes) : Option Nat := do
  let length ← readLength? bytes
  -- The length counts its own four bytes, and a zero ends even the empty document.
  if length < 5 then none
  else if bytes[length - 1]? = some 0 then some length
  else none

/-- The text before the first zero, and the bytes after it. -/
def readName? (bytes : Bytes) : Option (String × Bytes) := do
  let (front, back) ← Bytes.splitAtZero? bytes
  return (← Bytes.toString? front, back)

/-- The size of two texts that each end in a zero. -/
def regexSize? (bytes : Bytes) : Option Nat := do
  let (_, options) ← readName? bytes
  let (_, rest) ← readName? options
  return bytes.length - rest.length

/-- How many bytes a value takes, judged by its kind and its first bytes. -/
def payloadSize? (kind : ElementKind) (bytes : Bytes) : Option Nat :=
  match kind with
  | .undefined | .null | .minKey | .maxKey => some 0
  | .boolean => some 1
  | .int32 => some 4
  | .double | .dateTime | .timestamp | .int64 => some 8
  | .objectId => some 12
  | .decimal128 => some 16
  | .string | .code | .symbol => textSize? bytes
  | .document | .array => embeddedSize? bytes
  | .binary => (readLength? bytes).map (· + 5)
  | .regex => regexSize? bytes
  | .dbPointer => (textSize? bytes).map (· + 12)
  -- The first word counts all bytes; whether they hold a text and a scope is judged later.
  | .codeWithScope => readLength? bytes

/-- What stands at the front of the elements of a document. -/
inductive Scan where
  | done
  | broken
  | element (head : RawElement) (rest : Bytes)
deriving DecidableEq, Repr, Inhabited

/-- Reads what follows a tag: a name and as many bytes as the kind takes. -/
def readElement? (tag : UInt8) (bytes : Bytes) : Option (RawElement × Bytes) := do
  -- The name stands between the tag and the value.
  let (key, others) ← readName? bytes
  let kind ← ElementKind.ofTag? tag
  let (payload, rest) ← Bytes.split? (← payloadSize? kind others) others
  return (⟨key, kind, payload⟩, rest)

/-- Reads the element at the front; a single zero ends the document. -/
def scan : Bytes → Scan
  | [] => .broken
  -- A zero that is followed by anything is no end but an unknown tag.
  | [last] => if last = 0 then .done else .broken
  | tag :: bytes =>
    match readElement? tag bytes with
    | none => .broken
    | some (head, rest) => .element head rest

/-- The elements of a raw document and its final zero. -/
def RawDocument.elements (document : RawDocument) : Bytes := document.bytes.drop 4

/-- The zero is the only byte that a cut loses. -/
theorem length_splitAtZero? {bytes front back : Bytes}
    (found : Bytes.splitAtZero? bytes = some (front, back)) :
    bytes.length = front.length + back.length + 1 := by
  -- Each byte before the zero moves to the front part.
  induction bytes generalizing front back with
  | nil => simp [Bytes.splitAtZero?] at found
  | cons byte rest ih =>
    simp only [Bytes.splitAtZero?] at found
    split at found
    · simp only [Option.some.injEq, Prod.mk.injEq] at found
      obtain ⟨rfl, rfl⟩ := found
      simp
    · simp only [Option.map_eq_some_iff, Prod.mk.injEq, Prod.exists] at found
      obtain ⟨front', back', inner, rfl, rfl⟩ := found
      simp [ih inner]
      omega

/-- A name and its zero come off the front. -/
theorem length_readName? {bytes rest : Bytes} {key : String}
    (found : readName? bytes = some (key, rest)) : rest.length < bytes.length := by
  -- Reading a name is a cut at the first zero.
  simp only [readName?, Option.bind_eq_bind, Option.bind_eq_some_iff, Prod.exists,
    Option.pure_def, Option.some.injEq, Prod.mk.injEq] at found
  obtain ⟨front, back, cut, text, _, _, rfl⟩ := found
  have := length_splitAtZero? cut
  omega

/-- An element's payload and the bytes after it are parts of what was read. -/
theorem length_readElement? {tag : UInt8} {bytes rest : Bytes} {head : RawElement}
    (found : readElement? tag bytes = some (head, rest)) :
    rest.length ≤ bytes.length ∧ head.payload.length ≤ bytes.length := by
  -- The payload and the rest split what follows the name.
  simp only [readElement?, Option.bind_eq_bind, Option.bind_eq_some_iff, Prod.exists,
    Option.pure_def, Option.some.injEq, Prod.mk.injEq] at found
  obtain ⟨key, others, named, kind, _, size, _, payload, back, cut, rfl, rfl⟩ := found
  have shorter := length_readName? named
  simp only [Bytes.split?] at cut
  split at cut
  · simp only [Option.some.injEq, Prod.mk.injEq] at cut
    obtain ⟨rfl, rfl⟩ := cut
    simp only [List.length_drop, List.length_take]
    omega
  · cases cut

/-- A scanned element leaves less to scan, and its value is shorter than what was scanned. -/
theorem length_scan {bytes rest : Bytes} {head : RawElement}
    (found : scan bytes = .element head rest) :
    rest.length < bytes.length ∧ head.payload.length < bytes.length := by
  -- The tag alone makes the difference.
  unfold scan at found
  split at found
  · cases found
  · split at found <;> cases found
  · split at found
    · cases found
    · rename_i same
      simp only [Scan.element.injEq] at found
      obtain ⟨rfl, rfl⟩ := found
      have := length_readElement? same
      simp only [List.length_cons]
      omega

end DocWire
