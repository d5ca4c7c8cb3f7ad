import DocWire.Command.Basic
import DocWire.Proofs.Wire.Leaves
import DocWire.Proofs.Wire.Reading

/-! Elements of documents as they were written: the scanner cuts them off one by one, with the name,
the kind and the payload that they were written with. -/

namespace DocWire

theorem ElementKind.ofTag?_tag (kind : ElementKind) : ofTag? kind.tag = some kind := by
  cases kind <;> rfl

/-- No kind of value has the tag that ends a document. -/
theorem ElementKind.tag_ne_zero (kind : ElementKind) : kind.tag ≠ 0 := by
  cases kind <;> decide

/-- A name is read back up to its zero, whatever stands behind that. -/
theorem readName?_ofString {name : String} (clean : '\x00' ∉ name.toList) (rest : Bytes) :
    readName? (Bytes.ofString name ++ 0 :: rest) = some (name, rest) := by
  simp only [readName?, Bytes.splitAtZero?_append (Bytes.zero_not_mem clean), Option.bind_eq_bind,
    Option.bind_some, Bytes.toString?_ofString, Option.pure_def]

namespace RawElement

/-- The bytes of an element: its tag, its name with a zero, and its payload. -/
def bytes (element : RawElement) : Bytes :=
  element.kind.tag :: (Bytes.ofString element.key ++ 0 :: element.payload)

/-- An element whose end can be told, whatever stands after it. -/
structure Sound (element : RawElement) : Prop where
  named : '\x00' ∉ element.key.toList
  sized : ∀ rest, payloadSize? element.kind (element.payload ++ rest) = some element.payload.length

variable {element : RawElement} {elements : List RawElement}

/-- A payload is a part of the bytes of its element, and of every run that the element is in. -/
theorem length_payload_le (among : element ∈ elements) :
    element.payload.length ≤ (elements.flatMap bytes).length := by
  -- By induction on the run: the element is the first of it, or stands in the rest.
  induction elements with
  | nil => cases among
  | cons first rest ih =>
    rw [List.flatMap_cons, List.length_append]
    rcases List.mem_cons.mp among with rfl | among
    · simp only [bytes, List.length_cons, List.length_append]
      omega
    · exact Nat.le_add_left_of_le (ih among)

/-- A sound element is scanned as it was written. -/
theorem scan_append (sound : element.Sound) (rest : Bytes) :
    scan (element.bytes ++ rest) = .element element rest := by
  have read : readElement? element.kind.tag
      (Bytes.ofString element.key ++ 0 :: (element.payload ++ rest)) = some (element, rest) := by
    simp only [readElement?, readName?_ofString sound.named, Option.bind_eq_bind, Option.bind_some,
      Option.pure_def, ElementKind.ofTag?_tag, sound.sized rest, Bytes.split?_append]
  have joined : element.bytes ++ rest
      = element.kind.tag :: (Bytes.ofString element.key ++ 0 :: (element.payload ++ rest)) := by
    simp [bytes]
  rw [joined]
  -- There is more behind the tag, so it is not taken for the end.
  unfold scan
  split
  · rename_i empty
    cases empty
  · rename_i last alone
    simp at alone
  · rename_i tag others same
    cases same
    rw [read]

theorem scan_end : scan [0] = .done := by
  simp [scan]

theorem foundFields_append (sound : element.Sound) (rest : Bytes) :
    foundFields (element.bytes ++ rest)
      = (element.key, foundValue element.kind element.payload) :: foundFields rest := by
  rw [foundFields]
  split <;> rename_i found <;> rw [scan_append sound] at found <;> cases found
  rfl

theorem findElement_append (sound : element.Sound) (key : String) (rest : Bytes) :
    findElement key (element.bytes ++ rest)
      = if element.key = key then .ok element else findElement key rest := by
  rw [findElement]
  split <;> rename_i found <;> rw [scan_append sound] at found <;> cases found
  rfl

theorem scanAll_append (sound : element.Sound) (rest : Bytes) :
    scanAll (element.bytes ++ rest) = (element :: (scanAll rest).1, (scanAll rest).2) := by
  rw [scanAll]
  split <;> rename_i found <;> rw [scan_append sound] at found <;> cases found
  rfl

/-- The fields that are found in a run of elements, up to its final zero. -/
theorem foundFields_flatMap (sound : ∀ element ∈ elements, element.Sound) :
    foundFields (elements.flatMap bytes ++ [0])
      = elements.map fun element => (element.key, foundValue element.kind element.payload) := by
  -- By induction on the run, at the end of which the zero stands alone.
  induction elements with
  | nil =>
    rw [List.flatMap_nil, List.nil_append, foundFields]
    split <;> rename_i found <;> rw [scan_end] at found <;> cases found
    rfl
  | cons first rest ih =>
    rw [List.flatMap_cons, List.append_assoc, foundFields_append (sound first (by simp)),
      ih fun element among => sound element (by simp [among]), List.map_cons]

/-- The elements of a run are all that is scanned, and none of them is wrong. -/
theorem scanAll_flatMap (sound : ∀ element ∈ elements, element.Sound) :
    scanAll (elements.flatMap bytes ++ [0]) = (elements, false) := by
  induction elements with
  | nil =>
    rw [List.flatMap_nil, List.nil_append, scanAll]
    split <;> rename_i found <;> rw [scan_end] at found <;> cases found
  | cons first rest ih =>
    rw [List.flatMap_cons, List.append_assoc, scanAll_append (sound first (by simp)),
      ih fun element among => sound element (by simp [among])]

/-- The first element of a run that bears the name is the one that is found. -/
theorem findElement_flatMap (sound : ∀ element ∈ elements, element.Sound) (key : String) :
    findElement key (elements.flatMap bytes ++ [0])
      = match elements.find? (·.key = key) with
        | some element => .ok element
        | none => .error .absent := by
  induction elements with
  | nil =>
    rw [List.flatMap_nil, List.nil_append, findElement]
    split <;> rename_i found <;> rw [scan_end] at found <;> cases found
    rfl
  | cons first rest ih =>
    rw [List.flatMap_cons, List.append_assoc, findElement_append (sound first (by simp)),
      ih fun element among => sound element (by simp [among]), List.find?_cons]
    -- The first element is the one that is looked for, or the search goes on behind it.
    by_cases same : first.key = key <;> simp [same]

end RawElement

/-- The kinds whose payload tells its own end, whatever the value is. -/
def ElementKind.isPlain : ElementKind → Bool
  | .double | .string | .document | .array | .undefined | .boolean | .dateTime | .null | .code
  | .symbol | .int32 | .timestamp | .int64 | .minKey | .maxKey => true
  | .binary | .objectId | .regex | .dbPointer | .codeWithScope | .decimal128 => false

section Sizes

variable {payload rest : Bytes}

/-- A length that stands in front is read back as it is. -/
theorem readLength?_ofNat {length : Nat} (small : length ≤ largestWord) (rest : Bytes) :
    readLength? (Bytes.ofNat 4 length ++ rest) = some length := by
  -- The number is not negative as a word, since it is not too large for one.
  have number := Bytes.toInt32_ofNat small
  have cut : Bytes.split? 4 (Bytes.ofNat 4 length ++ rest) = some (Bytes.ofNat 4 length, rest) := by
    have := Bytes.split?_append (Bytes.ofNat 4 length) rest
    rwa [Bytes.length_ofNat] at this
  simp only [readLength?, cut, Option.bind_eq_bind, Option.bind_some, number]
  rw [if_neg (by omega), Int.toNat_natCast]

/-- Behind a length and the bytes that it counts, the zero is where the length tells. -/
theorem getElem?_behind (length : Nat) (body rest : Bytes) :
    (Bytes.ofNat 4 length ++ (body ++ 0 :: rest))[body.length + 4]? = some 0 := by
  have before : (Bytes.ofNat 4 length ++ body).length = body.length + 4 := by
    rw [List.length_append, Bytes.length_ofNat, Nat.add_comm]
  rw [← List.append_assoc, ← before, List.getElem?_append_right (Nat.le_refl _)]
  simp

/-- A text tells its size. -/
theorem textSize?_lengthPrefixed {text : String}
    (small : (lengthPrefixed text).length ≤ largestWord) (rest : Bytes) :
    textSize? (lengthPrefixed text ++ rest) = some (lengthPrefixed text).length := by
  have long : (lengthPrefixed text).length = (Bytes.ofString text).length + 5 := by
    simp only [lengthPrefixed, List.length_append, Bytes.length_ofNat, List.length_singleton]
    omega
  have front : lengthPrefixed text ++ rest
      = Bytes.ofNat 4 ((Bytes.ofString text).length + 1) ++ (Bytes.ofString text ++ 0 :: rest) := by
    simp [lengthPrefixed]
  -- The last of the bytes that the length counts is the zero behind the text.
  have ended : (lengthPrefixed text ++ rest)[(Bytes.ofString text).length + 1 + 3]? = some 0 := by
    rw [front]
    exact getElem?_behind _ _ _
  simp only [textSize?, Option.bind_eq_bind]
  rw [front, readLength?_ofNat (by omega), ← front, Option.bind_some, if_neg (by omega),
    if_pos ended, long]

theorem length_enclosed (elements : Bytes) : (enclosed elements).length = elements.length + 5 := by
  simp only [enclosed, List.length_append, Bytes.length_ofNat, List.length_singleton]
  omega

/-- An enclosed document tells its size. -/
theorem embeddedSize?_enclosed {elements : Bytes}
    (small : (enclosed elements).length ≤ largestWord) (rest : Bytes) :
    embeddedSize? (enclosed elements ++ rest) = some (enclosed elements).length := by
  have long := length_enclosed elements
  have front : enclosed elements ++ rest
      = Bytes.ofNat 4 (elements.length + 5) ++ (elements ++ 0 :: rest) := by
    simp [enclosed]
  -- The zero at the end stands where the size says.
  have ended : (enclosed elements ++ rest)[elements.length + 5 - 1]? = some 0 := by
    rw [front]
    exact getElem?_behind _ _ _
  simp only [embeddedSize?, Option.bind_eq_bind]
  rw [front, readLength?_ofNat (by omega), ← front, Option.bind_some, if_neg (by omega),
    if_pos ended, long]

/-- A value of a plain kind is as long as its own bytes tell. -/
theorem payloadSize?_encode {value : Value} (plain : value.kind.isPlain = true)
    (encoded : value.encode? = some payload) (small : payload.length ≤ largestWord)
    (rest : Bytes) : payloadSize? value.kind (payload ++ rest) = some payload.length := by
  cases value with
  | string text | code source | symbol name =>
    rw [Value.encode?] at encoded
    cases encoded
    exact textSize?_lengthPrefixed small rest
  | document fields | array items =>
    rw [Value.encode?] at encoded
    obtain ⟨elements, _, rfl⟩ := Option.map_eq_some_iff.mp encoded
    exact embeddedSize?_enclosed small rest
  | binary | objectId | regex | dbPointer | codeWithScope | decimal128 => cases plain
  -- The other kinds are as long as they always are.
  | _ =>
    rw [Value.encode?] at encoded
    cases encoded
    rfl

end Sizes

section Fields

/-- The element that a field is written as. -/
def rawElement? (field : String × Value) : Option RawElement :=
  field.2.encode?.map fun payload => ⟨field.1, field.2.kind, payload⟩

/-- The elements that fields are written as. -/
def rawElements? (fields : List (String × Value)) : Option (List RawElement) :=
  fields.mapM rawElement?

theorem rawElements?_cons {field : String × Value} {fields : List (String × Value)}
    {elements : List RawElement} :
    rawElements? (field :: fields) = some elements ↔
      ∃ payload rest, field.2.encode? = some payload ∧ rawElements? fields = some rest ∧
        elements = ⟨field.1, field.2.kind, payload⟩ :: rest := by
  simp only [rawElements?, List.mapM_cons, rawElement?, Option.bind_eq_bind, Option.pure_def,
    Option.bind_eq_some_iff, Option.map_eq_some_iff, Option.some.injEq]
  constructor
  · rintro ⟨_, ⟨payload, encoded, rfl⟩, rest, others, rfl⟩
    exact ⟨payload, rest, encoded, others, rfl⟩
  · rintro ⟨payload, rest, encoded, others, rfl⟩
    exact ⟨_, ⟨payload, encoded, rfl⟩, rest, others, rfl⟩

/-- Fields are written as one element after another, if no name holds a zero. -/
theorem encodeFields?_eq_some {fields : List (String × Value)} {bytes : Bytes} :
    encodeFields? fields = some bytes ↔ ∃ elements, rawElements? fields = some elements ∧
      (∀ field ∈ fields, '\x00' ∉ field.1.toList) ∧ bytes = elements.flatMap RawElement.bytes := by
  -- By induction on the fields: each is written as its element, before the rest.
  induction fields generalizing bytes with
  | nil => simp [encodeFields?, rawElements?, eq_comm]
  | cons field rest ih =>
    obtain ⟨key, value⟩ := field
    rw [encodeFields?]
    simp only [Option.bind_eq_bind, Option.bind_eq_some_iff, Option.pure_def, Option.some.injEq,
      rawElements?_cons, zeroTerminated?, Option.ite_none_left_eq_some]
    constructor
    · rintro ⟨_, ⟨named, rfl⟩, payload, encoded, others, tail, rfl⟩
      obtain ⟨elements, raw, clean, rfl⟩ := ih.mp tail
      refine ⟨_, ⟨payload, elements, encoded, raw, rfl⟩,
        List.forall_mem_cons.mpr ⟨named, clean⟩, ?_⟩
      simp [RawElement.bytes]
    · rintro ⟨_, ⟨payload, elements, encoded, raw, rfl⟩, clean, rfl⟩
      obtain ⟨named, clean⟩ := List.forall_mem_cons.mp clean
      refine ⟨_, ⟨named, rfl⟩, payload, encoded, _, ih.mpr ⟨elements, raw, clean, rfl⟩, ?_⟩
      simp [RawElement.bytes]

/-- An array with one item has one element. -/
theorem encodeItems?_single {value : Value} {bytes : Bytes} :
    encodeItems? 0 [value] = some bytes ↔ ∃ payload, value.encode? = some payload ∧
      bytes = RawElement.bytes ⟨"0", value.kind, payload⟩ := by
  -- The one item is named by its place.
  have first : toString 0 = "0" := rfl
  simp only [encodeItems?, Option.bind_eq_bind, Option.bind_eq_some_iff, Option.pure_def,
    Option.some.injEq, first, RawElement.bytes]
  constructor
  · rintro ⟨payload, encoded, _, rfl, rfl⟩
    exact ⟨payload, encoded, by simp⟩
  · rintro ⟨payload, encoded, rfl⟩
    exact ⟨payload, encoded, [], rfl, by simp⟩

/-- The elements of plain fields are sound where their bytes are not too many for a word. -/
theorem sound_rawElements {fields : List (String × Value)} {elements : List RawElement}
    (raw : rawElements? fields = some elements)
    (named : ∀ field ∈ fields, '\x00' ∉ field.1.toList)
    (plain : ∀ field ∈ fields, field.2.kind.isPlain = true)
    (small : (elements.flatMap RawElement.bytes).length ≤ largestWord) :
    ∀ element ∈ elements, element.Sound := by
  induction fields generalizing elements with
  | nil =>
    cases raw
    simp
  | cons field rest ih =>
    obtain ⟨payload, others, encoded, tail, rfl⟩ := rawElements?_cons.mp raw
    obtain ⟨clean, named⟩ := List.forall_mem_cons.mp named
    obtain ⟨simple, plain⟩ := List.forall_mem_cons.mp plain
    -- The payload is a part of the bytes, and so are the elements that follow.
    rw [List.flatMap_cons, List.length_append, RawElement.bytes, List.length_cons,
      List.length_append, List.length_cons] at small
    refine List.forall_mem_cons.mpr ⟨⟨clean, fun rest => ?_⟩, ih tail named plain (by omega)⟩
    exact payloadSize?_encode simple encoded (by dsimp only at small; omega) rest

theorem drop_enclosed (elements : Bytes) : (enclosed elements).drop 4 = elements ++ [0] := by
  rw [enclosed, List.append_assoc, List.drop_left' (Bytes.length_ofNat 4 _)]

end Fields

namespace RawDocument

/-- A document consists of elements, the ends of which can be told. -/
structure Holds (document : RawDocument) (elements : List RawElement) : Prop where
  sound : ∀ element ∈ elements, element.Sound
  run : document.elements = elements.flatMap RawElement.bytes ++ [0]

/-- Fields that are enclosed are the elements of a document. -/
theorem holds_enclosed {fields : List (String × Value)} {bytes : Bytes}
    (encoded : encodeFields? fields = some bytes)
    (plain : ∀ field ∈ fields, field.2.kind.isPlain = true)
    (small : (enclosed bytes).length ≤ largestWord) :
    ∃ elements, rawElements? fields = some elements ∧
      (⟨enclosed bytes⟩ : RawDocument).Holds elements := by
  -- The run is shorter than the document around it, so no payload in it is too long.
  obtain ⟨elements, found, named, rfl⟩ := encodeFields?_eq_some.mp encoded
  refine ⟨elements, found, sound_rawElements found named plain ?_, drop_enclosed _⟩
  rw [length_enclosed] at small
  omega

/-- A document that was written from plain fields holds the elements of these. -/
theorem holds_encode {document : Document} {raw : RawDocument}
    (encoded : document.encode = .ok raw)
    (plain : ∀ field ∈ document, field.2.kind.isPlain = true)
    (small : raw.bytes.length ≤ largestWord) :
    ∃ elements, rawElements? document = some elements ∧ raw.Holds elements := by
  unfold Document.encode at encoded
  split at encoded
  · rename_i bytes written
    cases encoded
    exact holds_enclosed written plain small
  · cases encoded

namespace Holds

variable {document : RawDocument} {elements : List RawElement}

theorem scanAll_eq (holds : document.Holds elements) :
    scanAll document.elements = (elements, false) := by
  rw [holds.run, RawElement.scanAll_flatMap holds.sound]

theorem findElement_eq (holds : document.Holds elements) (key : String) :
    findElement key document.elements = match elements.find? (·.key = key) with
      | some element => .ok element
      | none => .error .absent := by
  rw [holds.run, RawElement.findElement_flatMap holds.sound]

/-- The payload of the first element with the name is had under its kind. -/
theorem payload_eq (holds : document.Holds elements) {key : String} {element : RawElement}
    (found : elements.find? (·.key = key) = some element) (readable : element.readable = true) :
    document.payload key element.kind = .ok element.payload := by
  have located := holds.findElement_eq key
  rw [found] at located
  simp [RawDocument.payload, located, readable, bind, Except.bind]

/-- A field that no element bears is absent, whatever its kind is. -/
theorem payload_absent (holds : document.Holds elements) {key : String}
    (absent : elements.find? (·.key = key) = none) (kind : ElementKind) :
    document.payload key kind = .error .absent := by
  have located := holds.findElement_eq key
  rw [absent] at located
  simp [RawDocument.payload, located, bind, Except.bind]

end Holds

end RawDocument

end DocWire
