import DocWire.Proofs.Document.Elements

/-! Documents in the bytes that they are written as: whoever looks a field up in the bytes finds
what the document holds under its name. -/

namespace DocWire

namespace RawDocument

/-- The text of a field. -/
def textIn? (document : RawDocument) (key : String) : Option String :=
  match document.scalar key .string with
  | .ok (.string text) => some text
  | _ => none

/-- The truth value of a field. -/
def truthIn? (document : RawDocument) (key : String) : Option Bool :=
  match document.scalar key .boolean with
  | .ok (.boolean truth) => some truth
  | _ => none

/-- The word of a field. -/
def wordIn? (document : RawDocument) (key : String) : Option Int32 :=
  match document.scalar key .int32 with
  | .ok (.int32 word) => some word
  | _ => none

/-- The documents in the array of a field. -/
def documentsIn? (document : RawDocument) (key : String) : Option (List RawDocument) := do
  let items ← (document.array key).toOption
  match scanAll items.elements with
  | (items, false) =>
    items.mapM fun item => if item.kind = .document then some ⟨item.payload⟩ else none
  | (_, true) => none

/-- The elements of the document of a field, of which there are none when it is left out. -/
def elementsIn? (document : RawDocument) (key : String) : Option (List RawElement) :=
  match document.document key with
  | .ok inner =>
    match scanAll inner.elements with
    | (elements, false) => some elements
    | (_, true) => none
  | .error .absent => some []
  | .error _ => none

end RawDocument

section Values

/-- A value without parts is read back from the payload that it is written as. -/
def Value.ReadsBack (value : Value) : Prop :=
  ∀ payload, value.encode? = some payload → payload.length ≤ largestWord →
    decodeScalar? value.kind payload = some value

theorem readsBack_string (text : String) : (Value.string text).ReadsBack := by
  intro payload encoded small
  rw [Value.encode?] at encoded
  cases encoded
  have sized := textSize?_lengthPrefixed small []
  rw [List.append_nil] at sized
  have inner : ((lengthPrefixed text).take ((lengthPrefixed text).length - 1)).drop 4
      = Bytes.ofString text := by
    -- Neither the length in front nor the zero behind is a part of the text.
    have four := Bytes.length_ofNat 4 ((Bytes.ofString text).length + 1)
    rw [lengthPrefixed, List.append_assoc, List.length_append, List.length_append,
      List.length_singleton, List.drop_take, List.drop_left' four, four]
    rw [show 4 + ((Bytes.ofString text).length + 1) - 1 - 4 = (Bytes.ofString text).length by omega,
      List.take_left]
  simp only [Value.kind, decodeScalar?, readText?, sized, Option.bind_eq_bind, Option.bind_some,
    inner, Bytes.toString?_ofString, Option.pure_def, Option.map_some]

/-- What is decoded as a scalar is read as it is. -/
theorem readable_of_decodeScalar? {kind : ElementKind} {payload : Bytes} {value : Value}
    (decoded : decodeScalar? kind payload = some value) (key : String) :
    (⟨key, kind, payload⟩ : RawElement).readable = true ∧
      decodeValue? kind payload = some value := by
  -- The kinds with documents inside are no scalars.
  cases kind with
  | document | array | codeWithScope => cases decoded
  | _ => simp [RawElement.readable, decodeValue?, foundValue, decoded, RawValue.whole?]

theorem readsBack_boolean (truth : Bool) : (Value.boolean truth).ReadsBack := by
  intro payload encoded _
  rw [Value.encode?] at encoded
  cases encoded
  cases truth <;> rfl

theorem readsBack_int32 (word : Int32) : (Value.int32 word).ReadsBack := by
  intro payload encoded _
  rw [Value.encode?] at encoded
  cases encoded
  rw [Value.kind, decodeScalar?, Bytes.toInt32_ofInt32]

end Values

/-- Bytes are those of a document whose fields tell their own ends, and they are not too many for a
word. -/
structure Document.Written (document : Document) (raw : RawDocument) : Prop where
  plain : ∀ field ∈ document, field.2.kind.isPlain = true
  encoded : document.encode = .ok raw
  small : raw.bytes.length ≤ largestWord

/-- A document that is not too long is framed by the bytes that it is written as. -/
theorem Document.measured_encode {document : Document} {raw : RawDocument}
    (encoded : document.encode = .ok raw) (small : raw.bytes.length ≤ largestWord) :
    raw.Measured := by
  unfold encode at encoded
  split at encoded
  · rename_i bytes _
    cases encoded
    have long := length_enclosed bytes
    have short : bytes.length + 5 ≤ largestWord := by
      rw [← long]
      exact small
    refine ⟨?_, ?_, ?_⟩
    · rw [long]
      omega
    · -- The four bytes in front count all bytes.
      have front : (enclosed bytes).take 4 = Bytes.ofNat 4 (bytes.length + 5) := by
        rw [enclosed, List.append_assoc, List.take_left' (Bytes.length_ofNat 4 _)]
      rw [front, Bytes.toInt32_ofNat short, long]
    · simp [enclosed]
  · cases encoded

namespace Document.Written

variable {document : Document} {raw : RawDocument} {key : String}

theorem holds (written : Written document raw) :
    ∃ elements, rawElements? document = some elements ∧ raw.Holds elements :=
  RawDocument.holds_encode written.encoded written.plain written.small

/-- The first field with a name is written as the first element with the name. -/
theorem find?_of_get? {elements : List RawElement} {value : Value}
    (raw : rawElements? document = some elements) (held : document.get? key = some value) :
    ∃ payload, value.encode? = some payload ∧
      elements.find? (·.key = key) = some ⟨key, value.kind, payload⟩ := by
  -- By induction on the fields, of which each is written as one element with its name.
  induction document generalizing elements with
  | nil => cases held
  | cons field rest ih =>
    obtain ⟨payload, others, encoded, tail, rfl⟩ := rawElements?_cons.mp raw
    by_cases same : field.1 = key
    · subst same
      have value : field.2 = value := by simpa [get?] using held
      subst value
      exact ⟨payload, encoded, by simp⟩
    · have later : Document.get? rest key = some value := by simpa [get?, same] using held
      obtain ⟨found, coded, first⟩ := ih tail later
      exact ⟨found, coded, by simpa [same] using first⟩

theorem find?_of_absent {elements : List RawElement} (raw : rawElements? document = some elements)
    (absent : document.get? key = none) : elements.find? (·.key = key) = none := by
  -- By induction on the fields, of which none has the name.
  induction document generalizing elements with
  | nil =>
    cases raw
    rfl
  | cons field rest ih =>
    obtain ⟨payload, others, encoded, tail, rfl⟩ := rawElements?_cons.mp raw
    have apart : field.1 ≠ key := by
      rintro rfl
      simp [get?] at absent
    have later : Document.get? rest key = none := by simpa [get?, apart] using absent
    simpa [apart] using ih tail later

/-- A field is found in the bytes under its kind, with the payload of its value. -/
theorem payload_eq (written : Written document raw) {value : Value}
    (held : document.get? key = some value) :
    ∃ payload, value.encode? = some payload ∧ payload.length ≤ largestWord ∧
      ((⟨key, value.kind, payload⟩ : RawElement).readable = true →
        raw.payload key value.kind = .ok payload) := by
  obtain ⟨elements, found, holds⟩ := written.holds
  obtain ⟨payload, encoded, first⟩ := find?_of_get? found held
  refine ⟨payload, encoded, ?_, fun readable => holds.payload_eq first readable⟩
  -- The payload is a part of the run, and the run a part of the document.
  have part := RawElement.length_payload_le (List.mem_of_find?_eq_some first)
  have whole := congrArg List.length holds.run
  have small := written.small
  simp only [RawDocument.elements, List.length_drop, List.length_append,
    List.length_singleton] at whole part
  omega

/-- A value without parts is read back from the bytes. -/
theorem scalar_eq (written : Written document raw) {value : Value}
    (held : document.get? key = some value) (back : value.ReadsBack) :
    raw.scalar key value.kind = .ok value := by
  obtain ⟨payload, encoded, small, found⟩ := written.payload_eq held
  obtain ⟨readable, decoded⟩ := readable_of_decodeScalar? (back payload encoded small) key
  simp only [RawDocument.scalar, found readable, bind, Except.bind, decoded]

theorem textIn?_eq (written : Written document raw) {text : String}
    (held : document.get? key = some (.string text)) : raw.textIn? key = some text := by
  have found : raw.scalar key .string = .ok (.string text) :=
    written.scalar_eq held (readsBack_string text)
  simp only [RawDocument.textIn?, found]

theorem truthIn?_eq (written : Written document raw) {truth : Bool}
    (held : document.get? key = some (.boolean truth)) : raw.truthIn? key = some truth := by
  have found : raw.scalar key .boolean = .ok (.boolean truth) :=
    written.scalar_eq held (readsBack_boolean truth)
  simp only [RawDocument.truthIn?, found]

theorem wordIn?_eq (written : Written document raw) {word : Int32}
    (held : document.get? key = some (.int32 word)) : raw.wordIn? key = some word := by
  have found : raw.scalar key .int32 = .ok (.int32 word) :=
    written.scalar_eq held (readsBack_int32 word)
  simp only [RawDocument.wordIn?, found]

/-- A document inside is found in the bytes that it is written as by itself. -/
theorem document_eq (written : Written document raw) {fields : Document}
    (held : document.get? key = some (.document fields)) :
    ∃ inner, Document.encode fields = .ok inner ∧ inner.bytes.length ≤ largestWord ∧
      raw.document key = .ok inner := by
  -- The payload of a document is the document itself.
  obtain ⟨payload, encoded, small, found⟩ := written.payload_eq held
  rw [Value.encode?] at encoded
  obtain ⟨bytes, whole, rfl⟩ := Option.map_eq_some_iff.mp encoded
  refine ⟨⟨enclosed bytes⟩, ?_, small, ?_⟩
  · simp only [encode, whole]
  · have there : raw.payload key .document = .ok (enclosed bytes) := found rfl
    simp only [RawDocument.document, there, bind, Except.bind, pure, Except.pure]

/-- The one document in an array is found in the bytes that it is written as by itself. -/
theorem documentsIn?_eq (written : Written document raw) {fields : Document}
    (held : document.get? key = some (.array [.document fields])) :
    ∃ inner, Document.encode fields = .ok inner ∧ inner.bytes.length ≤ largestWord ∧
      raw.documentsIn? key = some [inner] := by
  obtain ⟨payload, encoded, small, found⟩ := written.payload_eq held
  rw [Value.encode?] at encoded
  obtain ⟨items, whole, rfl⟩ := Option.map_eq_some_iff.mp encoded
  obtain ⟨payload, one, rfl⟩ := encodeItems?_single.mp whole
  rw [Value.encode?] at one
  obtain ⟨bytes, coded, rfl⟩ := Option.map_eq_some_iff.mp one
  -- The item is a part of the array, so that it is not too long either.
  have short : (enclosed bytes).length ≤ largestWord := by
    have part := RawElement.length_payload_le (List.mem_singleton.mpr
      (Eq.refl (⟨"0", .document, enclosed bytes⟩ : RawElement)))
    rw [length_enclosed] at small
    simp only [List.flatMap_cons, List.flatMap_nil, List.append_nil] at part
    simp only [Value.kind] at small
    omega
  have holds : (⟨enclosed (RawElement.bytes ⟨"0", .document, enclosed bytes⟩)⟩ : RawDocument).Holds
      [⟨"0", .document, enclosed bytes⟩] := by
    refine ⟨List.forall_mem_singleton.mpr ⟨by simp, embeddedSize?_enclosed short⟩, ?_⟩
    rw [List.flatMap_cons, List.flatMap_nil, List.append_nil]
    exact drop_enclosed _
  refine ⟨⟨enclosed bytes⟩, ?_, short, ?_⟩
  · simp only [encode, coded]
  · have there : raw.payload key .array = .ok (enclosed (RawElement.bytes
        ⟨"0", .document, enclosed bytes⟩)) := found rfl
    simp only [RawDocument.documentsIn?, RawDocument.array, there, bind, Except.bind, pure,
      Except.pure, Except.toOption, Option.bind, holds.scanAll_eq]
    rfl

/-- The elements of a document inside are those that its own fields are written as. -/
theorem elementsIn?_eq (written : Written document raw) {fields : Document}
    (held : document.get? key = some (.document fields))
    (plain : ∀ field ∈ fields, field.2.kind.isPlain = true) :
    ∃ elements, rawElements? fields = some elements ∧ raw.elementsIn? key = some elements := by
  obtain ⟨inner, encoded, small, found⟩ := written.document_eq held
  obtain ⟨elements, raw, holds⟩ := RawDocument.holds_encode encoded plain small
  refine ⟨elements, raw, ?_⟩
  simp only [RawDocument.elementsIn?, found, holds.scanAll_eq]

/-- A field that is left out has no elements. -/
theorem elementsIn?_absent (written : Written document raw) (absent : document.get? key = none) :
    raw.elementsIn? key = some [] := by
  -- No element has the name, so the field is absent and not merely of another kind.
  obtain ⟨elements, found, holds⟩ := written.holds
  have nothing : raw.payload key .document = .error .absent :=
    holds.payload_absent (find?_of_absent found absent) .document
  simp only [RawDocument.elementsIn?, RawDocument.document, nothing, bind, Except.bind]

/-- The first element bears the name of the first field. -/
theorem head?_scanAll (written : Written document raw) :
    (scanAll raw.elements).1.head?.map (·.key) = document.head?.map (·.1) := by
  obtain ⟨elements, found, holds⟩ := written.holds
  rw [holds.scanAll_eq]
  -- The first element has the name of the first field.
  cases document with
  | nil =>
    cases found
    rfl
  | cons field rest =>
    obtain ⟨payload, others, -, -, rfl⟩ := rawElements?_cons.mp found
    rfl

theorem measured (written : Written document raw) : raw.Measured :=
  measured_encode written.encoded written.small

end Document.Written

end DocWire
