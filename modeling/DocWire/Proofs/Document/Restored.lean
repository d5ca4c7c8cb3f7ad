import DocWire.Proofs.Document.Size
import DocWire.Proofs.Document.Written

/-! Documents that are read back: what is read from the bytes of a document is the document settled
at every depth, and it is written as the same bytes again. -/

namespace DocWire

section Proper

mutual

/-- Whether a value is one that documents can hold: ids and decimals have their sizes, and no
document inside it repeats a name. -/
def Value.isProper : Value → Bool
  | .document fields => (Document.names fields).Nodup && areProperFields fields
  | .array items => areProperItems items
  | .codeWithScope _ scope => (Document.names scope).Nodup && areProperFields scope
  | .objectId data => data.length = 12
  | .dbPointer _ id => id.length = 12
  | .decimal128 data => data.length = 16
  | _ => true

/-- Whether all values of fields are proper. -/
def areProperFields : List (String × Value) → Bool
  | [] => true
  | (_, value) :: rest => value.isProper && areProperFields rest

/-- Whether all items are proper. -/
def areProperItems : List Value → Bool
  | [] => true
  | value :: rest => value.isProper && areProperItems rest

end

/-- Whether a document repeats no name, at any depth, and holds values of the right sizes. -/
def Document.isProper (document : Document) : Bool :=
  document.names.Nodup && areProperFields document

end Proper

section Settled

/-- Fields of different names are a document as they are. -/
theorem Document.ofFields_of_nodup {fields : List (String × Value)}
    (single : (Document.names fields).Nodup) : Document.ofFields fields = fields := by
  -- The document grows at its end by one field after another.
  have grown (front : Document) (apart : (Document.names (front ++ fields)).Nodup) :
      front.extend fields = front ++ fields := by
    induction fields generalizing front with
    | nil => simp [Document.extend]
    | cons field rest ih =>
      have new : field.1 ∉ front.names := by
        intro among
        rw [Document.names_append] at apart
        exact (List.nodup_append.mp apart).2.2 _ among _ (List.mem_cons_self ..) rfl
      have single : (Document.names rest).Nodup := (List.nodup_cons.mp single).2
      rw [Document.extend_cons, Document.insert_of_not_mem _ new,
        ih single _ (by rwa [List.append_assoc]), List.append_assoc]
      rfl
  exact grown [] single

theorem names_settledFields (fields : List (String × Value)) :
    Document.names (settledFields fields) = Document.names fields := by
  induction fields with
  | nil => rfl
  | cons field rest ih =>
    obtain ⟨key, value⟩ := field
    rw [settledFields]
    exact congrArg (key :: ·) ih

/-- Where no name is repeated, only the values are settled. -/
theorem Document.ofFields_settledFields {fields : List (String × Value)}
    (single : (Document.names fields).Nodup) :
    Document.ofFields (settledFields fields) = settledFields fields :=
  ofFields_of_nodup (by rwa [names_settledFields])

theorem Value.kind_settled (value : Value) : value.settled.kind = value.kind := by
  cases value <;> rfl

/-- A text whose characters were sorted is left alone by sorting. -/
theorem sortedText_sortedText (text : String) : sortedText (sortedText text) = sortedText text := by
  have sorted : (text.toList.mergeSort notAfter).Pairwise (notAfter · ·) := List.pairwise_mergeSort
    (fun a b c before after => by simp only [notAfter, decide_eq_true_eq] at *; omega)
    (fun a b => by simp only [notAfter, Bool.or_eq_true, decide_eq_true_eq]; omega) text.toList
  rw [sortedText, sortedText, String.toList_ofList, List.mergeSort_of_pairwise sorted]

end Settled

/-- The payload of a value tells its own end, what is read from it is the value once both are
settled, and the settled value is written as the same payload. -/
structure Value.Restores (value : Value) (payload : Bytes) : Prop where
  sized : ∀ rest, payloadSize? value.kind (payload ++ rest) = some payload.length
  read : ∃ found, (foundValue value.kind payload).whole? = some found ∧
    found.settled = value.settled
  again : value.settled.encode? = some payload

section Scalars

variable {value : Value} {payload : Bytes}

theorem Value.Restores.of_scalar (found : Value)
    (sized : ∀ rest, payloadSize? value.kind (payload ++ rest) = some payload.length)
    (decoded : decodeScalar? value.kind payload = some found)
    (same : found.settled = value.settled) (again : value.settled.encode? = some payload) :
    value.Restores payload :=
  ⟨sized, ⟨found, (readable_of_decodeScalar? decoded "").2, same⟩, again⟩

/-- A value of a plain kind is restored when it is read back as it was. -/
theorem Value.Restores.of_plain (plain : value.kind.isPlain = true)
    (encoded : value.encode? = some payload) (small : payload.length ≤ largestWord)
    (decoded : decodeScalar? value.kind payload = some value) (settled : value.settled = value) :
    value.Restores payload :=
  .of_scalar value (payloadSize?_encode plain encoded small) decoded rfl (by rw [settled, encoded])

/-- A text with its length before it is read, and what follows it is left. -/
theorem readText?_lengthPrefixed {text : String}
    (small : (lengthPrefixed text).length ≤ largestWord) (rest : Bytes) :
    readText? (lengthPrefixed text ++ rest) = some (text, rest) := by
  have four := Bytes.length_ofNat 4 ((Bytes.ofString text).length + 1)
  have long : (lengthPrefixed text).length = 4 + ((Bytes.ofString text).length + 1) := by
    simp only [lengthPrefixed, List.length_append, four, List.length_singleton, Nat.add_assoc]
  -- Neither the length in front nor the zero behind is a part of the text.
  have inner : ((lengthPrefixed text ++ rest).take ((lengthPrefixed text).length - 1)).drop 4
      = Bytes.ofString text := by
    rw [List.take_append_of_le_length (by omega), lengthPrefixed, List.append_assoc,
      List.drop_take, List.drop_left' four, ← List.append_assoc, ← lengthPrefixed, long]
    rw [show 4 + ((Bytes.ofString text).length + 1) - 1 - 4 = (Bytes.ofString text).length by omega,
      List.take_left]
  simp only [readText?, textSize?_lengthPrefixed small rest, Option.bind_eq_bind, Option.bind_some,
    inner, Bytes.toString?_ofString, Option.pure_def, List.drop_left]

theorem Bytes.toUInt64_ofUInt64 (word : UInt64) : toUInt64 (ofUInt64 word) = word := by
  rw [toUInt64, ofUInt64, toNat_ofNat 8 _ word.toNat_lt, UInt64.ofNat_toNat]

theorem Bytes.toInt64_ofInt64 (word : Int64) : toInt64 (ofInt64 word) = word := by
  rw [toInt64, ofInt64, toNat_ofNat 8 _ word.toUInt64.toNat_lt, UInt64.ofNat_toNat,
    Int64.toInt64_toUInt64]

/-- Binary data ends where the length in front of it says, five bytes for itself and the subtype
on top. -/
theorem payloadSize?_binary {size : Nat} (small : size ≤ largestWord) (rest : Bytes) :
    payloadSize? .binary (Bytes.ofNat 4 size ++ rest) = some (size + 5) := by
  rw [payloadSize?, readLength?_ofNat small, Option.map_some]

/-- Binary data is read back behind its subtype, and behind a second length where it has one. -/
theorem Value.restores_binary (subtype : UInt8) (data : Bytes)
    (small : (encodeBinary subtype data).length ≤ largestWord) :
    (Value.binary subtype data).Restores (encodeBinary subtype data) := by
  unfold encodeBinary at small ⊢
  by_cases double : subtype = 2
  · -- The reader drops the second length only where it agrees with the bytes that are left.
    subst double
    simp only [if_true, List.length_append, Bytes.length_ofNat, List.length_singleton] at small ⊢
    have inner : readLength? (Bytes.ofNat 4 data.length ++ data) = some data.length :=
      readLength?_ofNat (by omega) data
    refine .of_scalar (.binary 2 data) (fun rest => ?_) ?_ rfl rfl
    · simp only [Value.kind, List.append_assoc]
      rw [payloadSize?_binary (by omega)]
      simp only [Option.some.injEq, List.length_append, Bytes.length_ofNat, List.length_cons,
        List.length_nil]
      omega
    · simp only [Value.kind, decodeScalar?, decodeBinary?, List.append_assoc,
        List.drop_left' (Bytes.length_ofNat 4 _), List.cons_append, List.nil_append,
        Option.bind_eq_bind, Option.bind_some, if_true, inner, List.length_append,
        Bytes.length_ofNat]
      rw [if_pos (by omega)]
  · simp only [double, if_false, List.length_append, Bytes.length_ofNat,
      List.length_singleton] at small ⊢
    refine .of_scalar (.binary subtype data) (fun rest => ?_) ?_ rfl ?_
    · simp only [Value.kind, List.append_assoc]
      rw [payloadSize?_binary (by omega)]
      simp only [Option.some.injEq, List.length_append, Bytes.length_ofNat, List.length_cons,
        List.length_nil]
      omega
    · simp only [Value.kind, decodeScalar?, decodeBinary?, List.append_assoc,
        List.drop_left' (Bytes.length_ofNat 4 _), List.cons_append, List.nil_append,
        Option.bind_eq_bind, Option.bind_some, double, if_false]
    · simp only [Value.settled, Value.encode?, encodeBinary, double, if_false]

/-- A regular expression is read back with its options sorted, as they are written. -/
theorem Value.restores_regex {pattern options : String}
    (encoded : encodeRegex? pattern options = some payload) :
    (Value.regex pattern options).Restores payload := by
  simp only [encodeRegex?, zeroTerminated?, Option.bind_eq_bind, Option.bind_eq_some_iff,
    Option.pure_def, Option.some.injEq, Option.ite_none_left_eq_some] at encoded
  obtain ⟨_, ⟨clean, rfl⟩, _, ⟨free, rfl⟩, rfl⟩ := encoded
  -- What is read has its options sorted already, and sorting them again leaves them alone.
  refine .of_scalar (.regex pattern (sortedText options)) (fun rest => ?_) ?_ ?_ ?_
  · simp only [Value.kind, payloadSize?, regexSize?, List.append_assoc, List.cons_append,
      List.nil_append, readName?_ofString clean, readName?_ofString free, Option.bind_eq_bind,
      Option.bind_some, Option.pure_def, Option.some.injEq, List.length_append, List.length_cons,
      List.length_nil]
    omega
  · simp only [Value.kind, decodeScalar?, List.append_assoc, List.cons_append, List.nil_append,
      readName?_ofString clean, readName?_ofString free, Option.bind_eq_bind, Option.bind_some,
      Option.pure_def, sortedText_sortedText]
  · rw [Value.settled, Value.settled, sortedText_sortedText]
  · simp only [Value.settled, Value.encode?, encodeRegex?, zeroTerminated?, sortedText_sortedText,
      clean, free, if_false, Option.bind_eq_bind, Option.bind_some, Option.pure_def]

/-- A pointer into a collection ends twelve bytes behind the name of the collection. -/
theorem Value.restores_dbPointer {name : String} {id : Bytes} (twelve : id.length = 12)
    (small : (lengthPrefixed name ++ id).length ≤ largestWord) :
    (Value.dbPointer name id).Restores (lengthPrefixed name ++ id) := by
  rw [List.length_append] at small
  have front : (lengthPrefixed name).length ≤ largestWord := by omega
  refine .of_scalar (.dbPointer name id) (fun rest => ?_) ?_ rfl rfl
  · simp only [Value.kind, payloadSize?, List.append_assoc, textSize?_lengthPrefixed front,
      Option.map_some, List.length_append, twelve]
  · simp only [Value.kind, decodeScalar?, readText?_lengthPrefixed front, Option.map_some]

/-- Whether there are other values inside a value. -/
def Value.isNested : Value → Bool
  | .document _ | .array _ | .codeWithScope _ _ => true
  | _ => false

/-- A proper value with no others inside is restored. -/
theorem Value.restores_single (single : value.isNested = false) (proper : value.isProper = true)
    (encoded : value.encode? = some payload) (small : payload.length ≤ largestWord) :
    value.Restores payload := by
  cases value with
  | document | array | codeWithScope => cases single
  | binary subtype data =>
    rw [Value.encode?] at encoded
    cases encoded
    exact Value.restores_binary subtype data small
  | regex pattern options => exact Value.restores_regex encoded
  | dbPointer namespaceName id =>
    rw [Value.encode?] at encoded
    cases encoded
    rw [Value.isProper, decide_eq_true_eq] at proper
    exact Value.restores_dbPointer proper small
  -- Ids and decimals bear no length, so their sizes come from the value being proper.
  | objectId data =>
    rw [Value.encode?] at encoded
    cases encoded
    rw [Value.isProper, decide_eq_true_eq] at proper
    exact .of_scalar _ (fun rest => by simp only [Value.kind, payloadSize?, proper]) rfl rfl rfl
  | decimal128 data =>
    rw [Value.encode?] at encoded
    cases encoded
    rw [Value.isProper, decide_eq_true_eq] at proper
    exact .of_scalar _ (fun rest => by simp only [Value.kind, payloadSize?, proper]) rfl rfl rfl
  -- The plain kinds end where their layout says, and only their payload is to be read.
  | string text => exact .of_plain rfl encoded small (readsBack_string text _ encoded small) rfl
  | boolean truth => exact .of_plain rfl encoded small (readsBack_boolean truth _ encoded small) rfl
  | int32 word => exact .of_plain rfl encoded small (readsBack_int32 word _ encoded small) rfl
  | code source | symbol name =>
    refine .of_plain rfl encoded small ?_ rfl
    rw [Value.encode?] at encoded
    cases encoded
    have read := readText?_lengthPrefixed small []
    rw [List.append_nil] at read
    simp only [Value.kind, decodeScalar?, read, Option.map_some]
  | double bits =>
    refine .of_plain rfl encoded small ?_ rfl
    rw [Value.encode?] at encoded
    cases encoded
    simp only [Value.kind, decodeScalar?, Bytes.toUInt64_ofUInt64]
  | dateTime number | int64 number =>
    refine .of_plain rfl encoded small ?_ rfl
    rw [Value.encode?] at encoded
    cases encoded
    simp only [Value.kind, decodeScalar?, Bytes.toInt64_ofInt64]
  | timestamp time increment =>
    refine .of_plain rfl encoded small ?_ rfl
    rw [Value.encode?] at encoded
    cases encoded
    have four : (Bytes.ofUInt32 increment).length = 4 := Bytes.length_ofNat 4 _
    simp only [Value.kind, decodeScalar?, List.drop_left' four, List.take_left' four,
      Bytes.toUInt32_ofUInt32]
  | undefined | null | minKey | maxKey =>
    refine .of_plain rfl encoded small ?_ rfl
    rw [Value.encode?] at encoded
    cases encoded
    rfl

end Scalars

section Parts

/-- The fields that are found behind an element are found after it. -/
theorem foundFields_cons {key : String} {kind : ElementKind} {payload others : Bytes}
    (named : '\x00' ∉ key.toList)
    (sized : ∀ rest, payloadSize? kind (payload ++ rest) = some payload.length) :
    foundFields (kind.tag :: (Bytes.ofString key ++ [0] ++ payload ++ others) ++ [0])
      = (key, foundValue kind payload) :: foundFields (others ++ [0]) := by
  have joined : kind.tag :: (Bytes.ofString key ++ [0] ++ payload ++ others) ++ [0]
      = RawElement.bytes ⟨key, kind, payload⟩ ++ (others ++ [0]) := by
    simp [RawElement.bytes]
  rw [joined, RawElement.foundFields_append ⟨named, sized⟩]

theorem foundFields_end : foundFields [0] = [] := by
  have none : ∀ element ∈ ([] : List RawElement), element.Sound := by simp
  simpa using RawElement.foundFields_flatMap none

/-- What is found in the bytes of fields are the fields once both are settled, and these are written
as the same bytes. -/
structure RestoresFields (fields : List (String × Value)) (bytes : Bytes) : Prop where
  read : ∃ found, wholeFields? (foundFields (bytes ++ [0])) = some found ∧
    settledFields found = settledFields fields
  again : encodeFields? (settledFields fields) = some bytes

/-- What is found in the bytes of items are the items once both are settled, and these are written
as the same bytes, from the same place on. -/
structure RestoresItems (place : Nat) (items : List Value) (bytes : Bytes) : Prop where
  read : ∃ found, wholeItems? ((foundFields (bytes ++ [0])).map (·.2)) = some found ∧
    settledItems found = settledItems items
  again : encodeItems? place (settledItems items) = some bytes

section Nested

variable {fields : List (String × Value)} {items : List Value} {bytes : Bytes}

theorem Value.restores_document (encoded : (Value.document fields).encode? = some (enclosed bytes))
    (small : (enclosed bytes).length ≤ largestWord) (single : (Document.names fields).Nodup)
    (inside : RestoresFields fields bytes) : (Value.document fields).Restores (enclosed bytes) := by
  obtain ⟨⟨found, whole, same⟩, again⟩ := inside
  refine ⟨payloadSize?_encode rfl encoded small, ⟨.document found, ?_, ?_⟩, ?_⟩
  · simp only [Value.kind, foundValue, drop_enclosed, RawValue.whole?, whole, Option.map_some]
  · rw [Value.settled, Value.settled, same]
  · simp only [Value.settled, Value.encode?, Document.ofFields_settledFields single, again,
      Option.map_some]

theorem Value.restores_array (encoded : (Value.array items).encode? = some (enclosed bytes))
    (small : (enclosed bytes).length ≤ largestWord) (inside : RestoresItems 0 items bytes) :
    (Value.array items).Restores (enclosed bytes) := by
  obtain ⟨⟨found, whole, same⟩, again⟩ := inside
  refine ⟨payloadSize?_encode rfl encoded small, ⟨.array found, ?_, ?_⟩, ?_⟩
  · simp only [Value.kind, foundValue, drop_enclosed, RawValue.whole?, whole, Option.map_some]
  · rw [Value.settled, Value.settled, same]
  · simp only [Value.settled, Value.encode?, again, Option.map_some]

/-- Code with a scope is restored by its text and by what is inside its scope. -/
theorem Value.restores_codeWithScope {source : String} (encoded : encodeFields? fields = some bytes)
    (small : (encodeScoped source bytes).length ≤ largestWord)
    (single : (Document.names fields).Nodup) (inside : RestoresFields fields bytes) :
    (Value.codeWithScope source fields).Restores (encodeScoped source bytes) := by
  have long : (encodeScoped source bytes).length
      = 4 + (lengthPrefixed source).length + (enclosed bytes).length := by
    simp only [encodeScoped, List.length_append, Bytes.length_ofNat, Nat.add_assoc]
  have front : (lengthPrefixed source).length ≤ largestWord := by omega
  have behind : (encodeScoped source bytes).drop 4 = lengthPrefixed source ++ enclosed bytes := by
    rw [encodeScoped, List.drop_left' (Bytes.length_ofNat 4 _)]
  -- The text and the frame of the scope stand behind the total, and it is the scope whose end
  -- tells where its fields begin.
  have frame : framed (enclosed bytes) = true :=
    (Document.measured_encode (Document.encode_eq_ok.mpr ⟨bytes, encoded, rfl⟩)
      (by dsimp only; omega)).framed
  have behindCode : (encodeScoped source bytes).drop
      ((encodeScoped source bytes).length - (enclosed bytes).length + 4) = bytes ++ [0] := by
    rw [long, show 4 + (lengthPrefixed source).length + (enclosed bytes).length
        - (enclosed bytes).length + 4 = 4 + ((lengthPrefixed source).length + 4) by omega,
      ← List.drop_drop, behind, ← List.drop_drop, List.drop_left, drop_enclosed]
  have total (rest : Bytes) : readLength? (encodeScoped source bytes ++ rest)
      = some (encodeScoped source bytes).length := by
    rw [long, encodeScoped, List.append_assoc, readLength?_ofNat (by simp; omega)]
    simp only [List.length_append, Option.some.injEq]
    omega
  obtain ⟨⟨found, whole, same⟩, again⟩ := inside
  refine ⟨fun rest => by simp only [Value.kind, payloadSize?, total],
    ⟨.codeWithScope source found, ?_, ?_⟩, ?_⟩
  · simp only [Value.kind, foundValue, behind, readText?_lengthPrefixed front, frame, if_true,
      behindCode, RawValue.whole?, whole, Option.map_some]
  · rw [Value.settled, Value.settled, same]
  · simp only [Value.settled, Value.encode?, Document.ofFields_settledFields single, again,
      Option.map_some]

end Nested

mutual

/-- Every proper value is restored from the payload that it is written as. -/
theorem Value.restores {value : Value} (proper : value.isProper = true) {payload : Bytes}
    (encoded : value.encode? = some payload) (small : payload.length ≤ largestWord) :
    value.Restores payload := by
  -- The values with others inside are restored by their parts.
  cases value with
  | document fields =>
    have whole := encoded
    rw [Value.encode?] at encoded
    obtain ⟨bytes, inner, rfl⟩ := Option.map_eq_some_iff.mp encoded
    rw [Value.isProper, Bool.and_eq_true, decide_eq_true_eq] at proper
    have short := small
    rw [length_enclosed] at short
    exact Value.restores_document whole small proper.1 (fields_restored proper.2 inner (by omega))
  | array items =>
    have whole := encoded
    rw [Value.encode?] at encoded
    obtain ⟨bytes, inner, rfl⟩ := Option.map_eq_some_iff.mp encoded
    rw [Value.isProper] at proper
    have short := small
    rw [length_enclosed] at short
    exact Value.restores_array whole small (items_restored proper inner (by omega))
  | codeWithScope source scope =>
    rw [Value.encode?] at encoded
    obtain ⟨bytes, inner, rfl⟩ := Option.map_eq_some_iff.mp encoded
    rw [Value.isProper, Bool.and_eq_true, decide_eq_true_eq] at proper
    have short := small
    rw [encodeScoped, List.length_append, List.length_append, length_enclosed] at short
    exact Value.restores_codeWithScope inner small proper.1
      (fields_restored proper.2 inner (by omega))
  | _ => exact Value.restores_single rfl proper encoded small

/-- The fields that are found in what fields are written as are restored one after another. -/
theorem fields_restored {fields : List (String × Value)} (proper : areProperFields fields = true)
    {bytes : Bytes} (encoded : encodeFields? fields = some bytes)
    (small : bytes.length ≤ largestWord) : RestoresFields fields bytes := by
  match fields with
  | [] =>
    rw [encodeFields?] at encoded
    cases encoded
    exact ⟨⟨[], by rw [List.nil_append, foundFields_end, wholeFields?], rfl⟩, rfl⟩
  | (key, value) :: rest =>
    rw [areProperFields, Bool.and_eq_true] at proper
    obtain ⟨named, payload, others, first, tail, rfl⟩ := encodeFields?_cons.mp encoded
    simp only [List.length_cons, List.length_append] at small
    -- The first field is restored by its value, and the others by what stands behind it.
    obtain ⟨sized, ⟨read, whole, same⟩, again⟩ := Value.restores proper.1 first (by omega)
    obtain ⟨⟨found, others, alike⟩, back⟩ := fields_restored proper.2 tail (by omega)
    refine ⟨⟨(key, read) :: found, ?_, ?_⟩, ?_⟩
    · rw [foundFields_cons named sized, wholeFields?, whole, others]
      rfl
    · rw [settledFields, settledFields, same, alike]
    · rw [settledFields, encodeFields?_cons, Value.kind_settled]
      exact ⟨named, payload, _, again, back, rfl⟩

/-- The items that are found in what items are written as are restored one after another. -/
theorem items_restored {items : List Value} (proper : areProperItems items = true) {place : Nat}
    {bytes : Bytes} (encoded : encodeItems? place items = some bytes)
    (small : bytes.length ≤ largestWord) : RestoresItems place items bytes := by
  match items with
  | [] =>
    rw [encodeItems?] at encoded
    cases encoded
    exact ⟨⟨[], by rw [List.nil_append, foundFields_end, List.map_nil, wholeItems?], rfl⟩, rfl⟩
  | value :: rest =>
    rw [areProperItems, Bool.and_eq_true] at proper
    simp only [encodeItems?, Option.bind_eq_bind, Option.bind_eq_some_iff, Option.pure_def,
      Option.some.injEq] at encoded
    obtain ⟨payload, first, others, tail, rfl⟩ := encoded
    simp only [List.length_cons, List.length_append] at small
    -- An item is found as a field whose name is its place.
    obtain ⟨sized, ⟨read, whole, same⟩, again⟩ := Value.restores proper.1 first (by omega)
    obtain ⟨⟨found, others, alike⟩, back⟩ := items_restored proper.2 tail (by omega)
    refine ⟨⟨read :: found, ?_, ?_⟩, ?_⟩
    · rw [foundFields_cons (Number.not_mem_toString rfl place) sized, List.map_cons, wholeItems?,
        whole, others]
      rfl
    · rw [settledItems, settledItems, same, alike]
    · simp only [settledItems, encodeItems?, again, back, Value.kind_settled, Option.bind_eq_bind,
        Option.bind_some, Option.pure_def]

end

end Parts

/-- What is read from the raw form of a proper document is the document settled, which is written
in the same raw form. -/
theorem Document.decode_encode {document : Document} {raw : RawDocument}
    (proper : document.isProper = true) (encoded : document.encode = .ok raw)
    (small : raw.bytes.length ≤ largestWord) :
    raw.decode = .ok (Document.settle document) ∧
      Document.encode (Document.settle document) = .ok raw := by
  obtain ⟨bytes, inner, rfl⟩ := encode_eq_ok.mp encoded
  rw [length_enclosed] at small
  simp only [isProper, Bool.and_eq_true, decide_eq_true_eq] at proper
  obtain ⟨⟨found, whole, same⟩, again⟩ := fields_restored proper.2 inner (by omega)
  refine ⟨?_, encode_eq_ok.mpr ⟨bytes, ?_, rfl⟩⟩
  · simp only [RawDocument.decode, RawDocument.toDocument?, RawDocument.elements, drop_enclosed,
      whole, Option.map_some, Document.settle, same]
  · rwa [settle, ofFields_settledFields proper.1]

/-- A raw form is read as a document that is written as the same bytes. -/
def RawDocument.Restored (raw : RawDocument) : Prop :=
  ∃ read, raw.decode = .ok read ∧ Document.encode read = .ok raw

/-- The raw form of a proper document is restored. -/
theorem Document.restored_encode {document : Document} {raw : RawDocument}
    (proper : document.isProper = true) (encoded : document.encode = .ok raw)
    (small : raw.bytes.length ≤ largestWord) : raw.Restored :=
  ⟨_, decode_encode proper encoded small⟩

end DocWire
