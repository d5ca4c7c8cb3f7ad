import DocWire.Document.Basic

/-! The fields of a document under insertion: a field that is put in takes the place of its name, or
the last place, so the other fields keep their values and their order. -/

namespace DocWire

namespace Document

/-- The names of the fields, in order. -/
def names (document : Document) : List String := document.map (·.1)

/-- The fields whose names are kept, in order. -/
def restrict (keep : String → Bool) (document : Document) : Document :=
  document.filter fun field => keep field.1

/-- The fields that bear one of the names. -/
def only (document : Document) (names : List String) : Document :=
  document.restrict names.contains

/-- The fields that bear none of the names. -/
def without (document : Document) (names : List String) : Document :=
  document.restrict fun name => !names.contains name

theorem names_append (fields others : List (String × Value)) :
    Document.names (fields ++ others) = Document.names fields ++ Document.names others :=
  List.map_append

section Insertion

variable (document : Document) (key : String) (value : Value)

theorem insert_nil : Document.insert [] key value = [(key, value)] := rfl

theorem insert_cons (other : String) (old : Value) (rest : Document) :
    Document.insert ((other, old) :: rest) key value
      = if other = key then (key, value) :: rest else (other, old) :: rest.insert key value := rfl

/-- A field that was put into a document is found there. -/
theorem get?_insert : Document.get? (document.insert key value) key = some value := by
  -- The field stands where the name was found, or at the end.
  induction document with
  | nil => simp [insert_nil, Document.get?]
  | cons field rest ih =>
    obtain ⟨other, old⟩ := field
    by_cases same : other = key
    · simp [insert_cons, Document.get?, same]
    · have : (other == key) = false := by simpa using same
      simpa [insert_cons, Document.get?, same, this] using ih

/-- Another field is found as it was. -/
theorem get?_insert_of_ne {other : String} (apart : key ≠ other) :
    Document.get? (document.insert key value) other = Document.get? document other := by
  induction document with
  | nil => simp [insert_nil, Document.get?, apart]
  | cons field rest ih =>
    obtain ⟨name, old⟩ := field
    -- The new field stands at the place of its own name, in front of which nothing changes.
    by_cases same : name = key
    · simp [insert_cons, Document.get?, same, apart]
    · rw [insert_cons, if_neg same]
      by_cases found : name = other
      · simp [Document.get?, found]
      · have : (name == other) = false := by simpa using found
        simpa [Document.get?, this] using ih

/-- A name that stands already is not put in again. -/
theorem names_insert : (document.insert key value).names
    = if key ∈ document.names then document.names else document.names ++ [key] := by
  -- The name is looked for field by field, just as the place of the value is.
  induction document with
  | nil => simp [insert_nil, names]
  | cons field rest ih =>
    obtain ⟨name, old⟩ := field
    by_cases same : name = key
    · simp [insert_cons, names, same]
    · have elsewhere : key ∈ names ((name, old) :: rest) ↔ key ∈ names rest := by
        simp [names, Ne.symm same]
      rw [insert_cons, if_neg same]
      show name :: names (insert rest key value) = _
      rw [ih]
      by_cases stands : key ∈ names rest
      · rw [if_pos stands, if_pos (elsewhere.mpr stands)]
        rfl
      · rw [if_neg stands, if_neg (mt elsewhere.mp stands)]
        rfl

/-- Of the fields that are kept, one that is put in is one, and all others stay. -/
theorem restrict_insert (keep : String → Bool) : (document.insert key value).restrict keep
    = if keep key then (document.restrict keep).insert key value else document.restrict keep := by
  induction document with
  | nil => cases kept : keep key <;> simp [insert_nil, restrict, kept]
  | cons field rest ih =>
    obtain ⟨name, old⟩ := field
    by_cases same : name = key
    -- The field whose place is taken is kept or passed over with the new one.
    · cases kept : keep key <;> simp [insert_cons, restrict, same, kept]
    · cases other : keep name <;>
        simp [insert_cons, restrict, same, other] at ih ⊢ <;> rw [ih]
      split <;> rfl

/-- The first field keeps its name. -/
theorem firstKey?_insert {name : String} (first : document.firstKey? = some name) :
    Document.firstKey? (document.insert key value) = some name := by
  cases document with
  | nil => cases first
  | cons field rest =>
    obtain ⟨other, old⟩ := field
    by_cases same : other = key
    · simpa [insert_cons, firstKey?, same] using first
    · simpa [insert_cons, firstKey?, same] using first

end Insertion

section Extension

variable {document : Document} {key : String} {value : Value}

theorem extend_cons (document : Document) (field : String × Value)
    (fields : List (String × Value)) :
    document.extend (field :: fields) = (document.insert field.1 field.2).extend fields := rfl

theorem extend_append (document : Document) (fields others : List (String × Value)) :
    document.extend (fields ++ others) = (document.extend fields).extend others :=
  List.foldl_append

/-- Fields that are put in one after another are kept or passed over one after another. -/
theorem restrict_extend (keep : String → Bool) (document : Document)
    (fields : List (String × Value)) : (document.extend fields).restrict keep
      = (document.restrict keep).extend (Document.restrict keep fields) := by
  induction fields generalizing document with
  | nil => rfl
  | cons field fields ih =>
    rw [extend_cons, ih, restrict_insert]
    cases kept : keep field.1 <;> simp [restrict, kept, extend_cons]

/-- Fields that are passed over leave what is kept as it was. -/
theorem restrict_extend_of_passed {keep : String → Bool} {fields : List (String × Value)}
    (passed : ∀ field ∈ fields, keep field.1 = false) (document : Document) :
    (document.extend fields).restrict keep = document.restrict keep := by
  have none : Document.restrict keep fields = [] := by
    simpa [restrict] using passed
  rw [restrict_extend, none]
  rfl

/-- What is put in under names that are left out, or under new names, leaves all other fields as they
were. -/
theorem without_only_extend {names : List String} {fields : List (String × Value)}
    (passed : ∀ field ∈ fields, field.1 ∈ names ∨ field.1 ∉ document.names) :
    ((document.extend fields).only document.names).without names = document.without names := by
  -- To keep some names and then to leave others out is one choice of names.
  let keep (name : String) : Bool := !names.contains name && document.names.contains name
  have both (found : Document) : (found.only document.names).without names
      = found.restrict keep := by
    simp only [only, without, restrict, List.filter_filter, keep]
  have all : document.only document.names = document := by
    refine List.filter_eq_self.mpr fun field among => ?_
    simpa [Document.names] using ⟨field.2, among⟩
  rw [both, restrict_extend_of_passed, ← both, all]
  intro field among
  rcases passed field among with inside | new
  · simp [keep, inside]
  · simp [keep, new]

theorem firstKey?_extend {name : String} (first : document.firstKey? = some name)
    (fields : List (String × Value)) : (document.extend fields).firstKey? = some name := by
  induction fields generalizing document with
  | nil => exact first
  | cons field fields ih => exact ih (firstKey?_insert document field.1 field.2 first)

/-- What is put in comes after the names that stand already. -/
theorem names_extend_prefix (document : Document) (fields : List (String × Value)) :
    document.names <+: (document.extend fields).names := by
  induction fields generalizing document with
  | nil => exact List.prefix_rfl
  | cons field fields ih =>
    -- A field adds its name at the end or not at all.
    refine List.IsPrefix.trans ?_ (ih (document.insert field.1 field.2))
    rw [names_insert]
    split
    · exact List.prefix_rfl
    · exact List.prefix_append _ _

/-- The names of what was there and of what was put in are there. -/
theorem mem_names_extend {fields : List (String × Value)} :
    key ∈ (document.extend fields).names ↔ key ∈ document.names ∨ key ∈ Document.names fields := by
  induction fields generalizing document with
  | nil => simp [extend, names]
  | cons field fields ih =>
    have cons : Document.names (field :: fields) = field.1 :: Document.names fields := rfl
    rw [extend_cons, ih, names_insert, cons, List.mem_cons]
    split
    · -- A name that stands already is among those that were there.
      rename_i stands
      constructor
      · rintro (before | after)
        · exact .inl before
        · exact .inr (.inr after)
      · rintro (before | rfl | after)
        · exact .inl before
        · exact .inl stands
        · exact .inr after
    · rw [List.mem_append, List.mem_singleton, or_assoc]

/-- No name is repeated by putting fields in. -/
theorem nodup_extend (single : document.names.Nodup) (fields : List (String × Value)) :
    (document.extend fields).names.Nodup := by
  induction fields generalizing document with
  | nil => exact single
  | cons field fields ih =>
    apply ih
    rw [names_insert]
    split
    · exact single
    · -- A name is put in at the end only if it is new.
      rename_i new
      refine List.nodup_append.mpr ⟨single, by simp, ?_⟩
      intro name among other last same
      rw [List.mem_singleton.mp last] at same
      exact new (same ▸ among)

/-- A field is found as it was when none of its name is put in. -/
theorem get?_extend_of_not_mem {fields : List (String × Value)}
    (apart : key ∉ Document.names fields) :
    (document.extend fields).get? key = Document.get? document key := by
  induction fields generalizing document with
  | nil => rfl
  | cons field fields ih =>
    simp only [names, List.map_cons, List.mem_cons, not_or] at apart
    rw [extend_cons, ih apart.2, get?_insert_of_ne _ _ _ (Ne.symm apart.1)]

/-- Of the fields of one name, the one that is put in last is found. -/
theorem get?_extend_of_mem {fields : List (String × Value)}
    (single : (Document.names fields).Nodup) (among : (key, value) ∈ fields) :
    (document.extend fields).get? key = some value := by
  -- What is put in after the field has other names, so it leaves the field alone.
  obtain ⟨front, back, rfl⟩ := List.append_of_mem among
  have last : key ∉ Document.names back := by
    simp only [names, List.map_append, List.map_cons] at single
    have := (List.nodup_append.mp single).2.1
    exact (List.nodup_cons.mp this).1
  rw [extend_append, extend_cons, get?_extend_of_not_mem last, get?_insert]

/-- What is found was there before or was put in. -/
theorem get?_extend_cases {fields : List (String × Value)}
    (found : (document.extend fields).get? key = some value) :
    (key, value) ∈ fields ∨ Document.get? document key = some value := by
  induction fields generalizing document with
  | nil => exact .inr found
  | cons field fields ih =>
    -- What is found behind the first field was put in, or was there when that field was in.
    rcases ih found with among | before
    · exact .inl (List.mem_cons_of_mem _ among)
    · by_cases same : field.1 = key
      · rw [← same, get?_insert] at before
        cases before
        exact .inl (by simp [← same])
      · rw [get?_insert_of_ne _ _ _ same] at before
        exact .inr before

end Extension

end Document

end DocWire
