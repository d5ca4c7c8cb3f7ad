import DocWire.Proofs.Document.Elements
import DocWire.Proofs.Document.Fields

/-! The sizes of documents: what fields add to a document that they are put into. A field under a
new name adds its own bytes, and one that replaces another adds at most those. -/

namespace DocWire

/-- A document is encoded as its fields, enclosed. -/
theorem Document.encode_eq_ok {document : Document} {raw : RawDocument} :
    document.encode = .ok raw ↔
      ∃ bytes, encodeFields? document = some bytes ∧ raw = ⟨enclosed bytes⟩ := by
  unfold encode
  cases encodeFields? document with
  | none => simp [badResponse]
  | some bytes => simp [eq_comm]

section Fields

variable {document : Document} {key : String} {value : Value} {before bytes field more : Bytes}

/-- A field is encoded as its tag, its name and its value, if both of these can be encoded. -/
theorem encodeFields?_cons {rest : List (String × Value)} :
    encodeFields? ((key, value) :: rest) = some bytes ↔
      '\x00' ∉ key.toList ∧ ∃ payload others, value.encode? = some payload ∧
        encodeFields? rest = some others ∧
        bytes = value.kind.tag :: (Bytes.ofString key ++ [0] ++ payload ++ others) := by
  simp only [encodeFields?, zeroTerminated?, Option.bind_eq_bind, Option.bind_eq_some_iff,
    Option.pure_def, Option.some.injEq, Option.ite_none_left_eq_some]
  constructor
  · rintro ⟨_, ⟨named, rfl⟩, payload, encoded, others, tail, rfl⟩
    exact ⟨named, payload, others, encoded, tail, rfl⟩
  · rintro ⟨named, payload, others, encoded, tail, rfl⟩
    exact ⟨_, ⟨named, rfl⟩, payload, encoded, others, tail, rfl⟩

/-- Fields one after another are encoded one after another. -/
theorem encodeFields?_append {fields others : List (String × Value)} :
    encodeFields? (fields ++ others) = some bytes ↔
      ∃ front back, encodeFields? fields = some front ∧ encodeFields? others = some back ∧
        bytes = front ++ back := by
  -- The cut goes between two fields, so it is found field by field.
  induction fields generalizing bytes with
  | nil => simp [encodeFields?]
  | cons field rest ih =>
    obtain ⟨key, value⟩ := field
    simp only [List.cons_append, encodeFields?_cons, ih]
    constructor
    · rintro ⟨named, payload, _, encoded, ⟨front, back, first, last, rfl⟩, rfl⟩
      exact ⟨_, back, ⟨named, payload, front, encoded, first, rfl⟩, last, by simp⟩
    · rintro ⟨_, back, ⟨named, payload, front, encoded, first, rfl⟩, last, rfl⟩
      exact ⟨named, payload, _, encoded, ⟨front, back, first, last, rfl⟩, by simp⟩

/-- A field that is put into a document adds at most its own bytes. -/
theorem encodeFields?_insert (encoded : encodeFields? document = some before)
    (single : encodeFields? [(key, value)] = some field) :
    ∃ after, encodeFields? (document.insert key value) = some after ∧
      after.length ≤ before.length + field.length := by
  -- The field takes the place of one of its name, or it comes last.
  induction document generalizing before with
  | nil =>
    rw [encodeFields?] at encoded
    cases encoded
    exact ⟨field, single, Nat.le_add_left ..⟩
  | cons first rest ih =>
    obtain ⟨other, old⟩ := first
    obtain ⟨named, payload, others, inner, tail, rfl⟩ := encodeFields?_cons.mp encoded
    rw [Document.insert_cons]
    split
    · obtain ⟨free, fresh, none, spelled, nothing, rfl⟩ := encodeFields?_cons.mp single
      rw [encodeFields?] at nothing
      cases nothing
      refine ⟨_, encodeFields?_cons.mpr ⟨free, fresh, others, spelled, tail, rfl⟩, ?_⟩
      simp only [List.length_cons, List.length_append, List.length_nil]
      omega
    · obtain ⟨after, put, small⟩ := ih tail
      refine ⟨_, encodeFields?_cons.mpr ⟨named, payload, after, inner, put, rfl⟩, ?_⟩
      simp only [List.length_cons, List.length_append]
      omega

/-- Fields that are put into a document add at most their own bytes. -/
theorem encodeFields?_extend {fields : List (String × Value)}
    (encoded : encodeFields? document = some before) (added : encodeFields? fields = some more) :
    ∃ after, encodeFields? (document.extend fields) = some after ∧
      after.length ≤ before.length + more.length := by
  induction fields generalizing document before more with
  | nil =>
    rw [encodeFields?] at added
    cases added
    exact ⟨before, encoded, Nat.le_add_right ..⟩
  | cons field rest ih =>
    rw [← List.singleton_append] at added
    obtain ⟨front, back, single, tail, rfl⟩ := encodeFields?_append.mp added
    -- Each field in turn adds its own bytes at most.
    obtain ⟨middle, put, small⟩ := encodeFields?_insert encoded single
    obtain ⟨after, extended, short⟩ := ih put tail
    refine ⟨after, extended, ?_⟩
    rw [List.length_append]
    omega

theorem Document.insert_of_not_mem {document : Document} {key : String} (value : Value)
    (new : key ∉ document.names) : document.insert key value = document ++ [(key, value)] := by
  -- No field gives its place to the new one, so the end is reached.
  induction document with
  | nil => rfl
  | cons field rest ih =>
    simp only [names, List.map_cons, List.mem_cons, not_or] at new
    rw [Document.insert_cons, if_neg (Ne.symm new.1), ih new.2]
    rfl

/-- A field of a new name adds its own bytes to a document. -/
theorem Document.encode_insert {raw : RawDocument} (new : key ∉ document.names)
    (encoded : document.encode = .ok raw) (single : encodeFields? [(key, value)] = some field) :
    ∃ put : RawDocument, (document.insert key value).encode = .ok put ∧
      put.bytes.length = raw.bytes.length + field.length := by
  obtain ⟨before, fields, rfl⟩ := encode_eq_ok.mp encoded
  have after : encodeFields? (document.insert key value) = some (before ++ field) := by
    rw [insert_of_not_mem value new]
    exact encodeFields?_append.mpr ⟨before, field, fields, single, rfl⟩
  refine ⟨_, encode_eq_ok.mpr ⟨_, after, rfl⟩, ?_⟩
  simp only [length_enclosed, List.length_append]
  omega

end Fields

end DocWire
