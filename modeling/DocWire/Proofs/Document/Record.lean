import DocWire.Document.Spelling
import Mathlib.Data.List.Forall2

/-! Records read from documents, field by field: what the fields of a document hold under a name,
and what a reader of a record makes of it. -/

namespace DocWire

/-- The values that fields hold under a name, in order. -/
def valuesUnder (name : String) (fields : List (String × RawValue)) : List RawValue :=
  (fields.filter fun field => name == field.1).map (·.2)

/-- The fields that bear none of the names can be read in all their parts. -/
def ReadableBeside (names : List String) (fields : List (String × RawValue)) : Prop :=
  ∀ field ∈ fields, field.1 ∉ names → field.2.isWhole = true

section Fields

variable {α : Type}

/-- A field stands in a document once, and its value tells a content. -/
def Required (fields : List (String × RawValue)) (name : String) (tells : RawValue → α → Prop)
    (content : α) : Prop :=
  ∃ value, valuesUnder name fields = [value] ∧ tells value content

/-- A field that has a content of its own when it is left out. -/
def Defaulted (fields : List (String × RawValue)) (name : String) (default : α)
    (tells : RawValue → α → Prop) (content : α) : Prop :=
  (valuesUnder name fields = [] ∧ content = default) ∨ Required fields name tells content

/-- A field that may be left out, or be null. -/
inductive Optional (fields : List (String × RawValue)) (name : String)
    (tells : RawValue → α → Prop) : Option α → Prop where
  | absent (left : valuesUnder name fields = []) : Optional fields name tells none
  | null (empty : valuesUnder name fields = [.atom .null]) : Optional fields name tells none
  | present {value : RawValue} {content : α} (held : valuesUnder name fields = [value])
    (full : value ≠ .atom .null) (told : tells value content) :
    Optional fields name tells (some content)

variable {fields : List (String × RawValue)} {name : String} {names : List String}
  {tells others : RawValue → α → Prop} {read : RawValue → Option α} {content default : α}
  {told : Option α} {place : Nat}

theorem Required.mono (narrow : ∀ value content, tells value content → others value content)
    (required : Required fields name tells content) : Required fields name others content := by
  obtain ⟨value, held, told⟩ := required
  exact ⟨value, held, narrow value content told⟩

theorem Defaulted.mono (narrow : ∀ value content, tells value content → others value content)
    (defaulted : Defaulted fields name default tells content) :
    Defaulted fields name default others content :=
  defaulted.imp_right (Required.mono narrow)

theorem Optional.mono (narrow : ∀ value content, tells value content → others value content)
    (optional : Optional fields name tells told) : Optional fields name others told := by
  cases optional with
  | absent left => exact .absent left
  | null empty => exact .null empty
  | present held full told => exact .present held full (narrow _ _ told)

/-- An optional field that tells nothing holds nothing but null. -/
theorem Optional.silent (optional : Optional fields name tells none) :
    ∀ value ∈ valuesUnder name fields, value = .atom .null := by
  cases optional with
  | absent left => simp [left]
  | null empty => simp [empty]

namespace Record

/-- The record of the fields of a document that bear one of the names. -/
def ofFields (names : List String) (fields : List (String × RawValue)) : Record :=
  .named (fields.filter fun field => names.contains field.1)

/-- A document is a record of some fields when all the others can be read. -/
theorem ofValue?_document {record : Record} :
    ofValue? names (.document fields) = some record ↔
      ReadableBeside names fields ∧ record = ofFields names fields := by
  -- The fields beside the names are only looked at to see whether they can be read.
  simp only [ofValue?, List.partition_eq_filter_filter]
  have others : (fields.filter (not ∘ fun field => names.contains field.1)).all
      (·.2.isWhole) = true ↔ ReadableBeside names fields := by
    simp only [List.all_eq_true, List.mem_filter, and_imp, ReadableBeside]
    refine forall_congr' fun field => imp_congr_right fun _ => ?_
    simp
  split
  · rename_i readable
    simp [others.mp readable, ofFields, eq_comm]
  · rename_i unreadable
    simp [mt others.mpr unreadable]

/-- A record is that of a document or of an array, or it has no fields at all. -/
theorem ofValue?_cases {value : RawValue} {record : Record}
    (found : ofValue? names value = some record) :
    (∃ fields, value = .document fields ∧ ReadableBeside names fields ∧
      record = ofFields names fields) ∨
      (∃ items, value = .array items ∧ record = .listed items) ∨ record = .named [] := by
  unfold ofValue? at found
  split at found
  case h_1 fields =>
    exact .inl ⟨fields, rfl, ofValue?_document.mp found⟩
  case h_2 items => exact .inr (.inl ⟨items, rfl, (Option.some.inj found).symm⟩)
  all_goals try cases found
  -- What is left is spelled as a document under names that nobody asks for.
  split at found
  · exact .inr (.inr (Option.some.inj found).symm)
  · cases found

/-- A field of a record holds what stands under its name, unless that is more than one value. -/
theorem entry?_ofFields (known : name ∈ names) :
    Record.entry? (ofFields names fields) place [name] = match valuesUnder name fields with
      | [] => some .absent
      | [value] => some (.present value)
      | _ => none := by
  have kept : (fields.filter fun field => names.contains field.1).filter
      (fun field => [name].contains field.1) = fields.filter fun field => name == field.1 := by
    rw [List.filter_filter]
    -- The names of the record do not take anything away from the one name.
    refine List.filter_congr fun field _ => ?_
    by_cases same : name = field.1
    · subst same
      simp [known]
    · simp [same, Ne.symm same]
  simp only [ofFields, entry?, kept, valuesUnder]
  cases fields.filter fun field => name == field.1 with
  | nil => rfl
  | cons field rest => cases rest <;> rfl

theorem required?_ofFields (known : name ∈ names) :
    (ofFields names fields).required? place [name] read = some content ↔
      Required fields name (fun value content => read value = some content) content := by
  rw [required?, entry?_ofFields known]
  unfold Required
  -- No value, one value, or too many.
  rcases valuesUnder name fields with _ | ⟨value, _ | ⟨other, rest⟩⟩ <;> simp

theorem defaulted?_ofFields (known : name ∈ names) :
    (ofFields names fields).defaulted? place [name] default read = some content ↔
      Defaulted fields name default (fun value content => read value = some content) content := by
  rw [defaulted?, entry?_ofFields known]
  unfold Defaulted Required
  rcases valuesUnder name fields with _ | ⟨value, _ | ⟨other, rest⟩⟩ <;> simp [eq_comm]

/-- Null is read as nothing, and anything else as what it tells. -/
theorem orNull_eq_some {value : RawValue} :
    orNull read value = some told ↔ (value = .atom .null ∧ told = none) ∨
      (value ≠ .atom .null ∧ ∃ content, read value = some content ∧ told = some content) := by
  -- Only null itself is passed over.
  by_cases null : value = .atom .null
  · subst null
    simp [orNull, eq_comm]
  · have passed : orNull read value = (read value).map some := by
      unfold orNull
      split
      · exact absurd rfl null
      · rfl
    simp [passed, null, eq_comm]

/-- A field that may be null and may be left out, as the fields hold it. -/
theorem optional_iff : Optional fields name (fun value content => read value = some content) told ↔
    (valuesUnder name fields = [] ∧ told = none) ∨
      ∃ value, valuesUnder name fields = [value] ∧ orNull read value = some told := by
  -- A field that is left out is not read, and one that is there is read, unless it is null.
  refine ⟨fun optional => ?_, ?_⟩
  · cases optional with
    | absent left => exact .inl ⟨left, rfl⟩
    | null empty => exact .inr ⟨_, empty, rfl⟩
    | present held full told =>
      exact .inr ⟨_, held, orNull_eq_some.mpr (.inr ⟨full, _, told, rfl⟩)⟩
  · rintro (⟨left, rfl⟩ | ⟨value, held, some⟩)
    · exact .absent left
    · rcases orNull_eq_some.mp some with ⟨rfl, rfl⟩ | ⟨full, content, found, rfl⟩
      · exact .null held
      · exact .present held full found

theorem optional?_ofFields (known : name ∈ names) :
    (ofFields names fields).optional? place [name] read = some told ↔
      Optional fields name (fun value content => read value = some content) told := by
  rw [optional?, entry?_ofFields known, optional_iff]
  rcases valuesUnder name fields with _ | ⟨value, _ | ⟨other, rest⟩⟩ <;> simp [eq_comm]

/-- A field whose default is nothing, and which may be null as well, is an optional one. -/
theorem defaulted?_orNull (known : name ∈ names) :
    (ofFields names fields).defaulted? place [name] none (orNull read) = some told ↔
      Optional fields name (fun value content => read value = some content) told := by
  rw [defaulted?_ofFields known, optional_iff]
  rfl

end Record

end Fields

namespace RawValue

/-- A value is a whole number, of either width. -/
inductive Counts : RawValue → Int → Prop where
  | int32 (number : Int32) : Counts (.atom (.int32 number)) number.toInt
  | int64 (number : Int64) : Counts (.atom (.int64 number)) number.toInt

/-- A value is a text. -/
def Spells (value : RawValue) (text : String) : Prop := value = .atom (.string text)

variable {value : RawValue}

theorem integer?_eq_some {number : Int} : value.integer? = some number ↔ value.Counts number := by
  refine ⟨fun found => ?_, ?_⟩
  · unfold integer? at found
    split at found
    · exact Option.some.inj found ▸ .int32 _
    · exact Option.some.inj found ▸ .int64 _
    · cases found
  · rintro (word | word) <;> rfl

theorem Counts.bounds {number : Int} (counts : value.Counts number) :
    -0x8000000000000000 ≤ number ∧ number ≤ 0x7fffffffffffffff := by
  -- Neither width goes beyond the wider one.
  cases counts with
  | int32 word =>
    have least := word.le_toInt
    have greatest := word.toInt_lt
    omega
  | int64 word =>
    have least := word.le_toInt
    have greatest := word.toInt_lt
    omega

theorem integerWithin?_eq_some {low high number : Int} :
    value.integerWithin? low high = some number ↔
      value.Counts number ∧ low ≤ number ∧ number ≤ high := by
  simp only [integerWithin?, Option.bind_eq_bind, Option.bind_eq_some_iff, integer?_eq_some]
  constructor
  · rintro ⟨found, counts, within⟩
    split at within
    · -- The bounds are judged on the number itself, in whichever type it was written.
      rename_i bounds
      obtain rfl := Option.some.inj within
      exact ⟨counts, bounds⟩
    · cases within
  · rintro ⟨counts, bounds⟩
    exact ⟨number, counts, if_pos bounds⟩

/-- Every whole number that is not negative is read as one. -/
theorem natural?_eq_some {count : Nat} : value.natural? = some count ↔ value.Counts count := by
  simp only [natural?, Option.map_eq_some_iff, integerWithin?_eq_some]
  constructor
  · rintro ⟨number, ⟨counts, positive, -⟩, rfl⟩
    rwa [Int.toNat_of_nonneg positive]
  · intro counts
    have bounds := counts.bounds
    exact ⟨count, ⟨counts, by omega, by omega⟩, rfl⟩

/-- Every whole number that fits a word is read as one. -/
theorem word?_eq_some {code : Int32} : value.word? = some code ↔ value.Counts code.toInt := by
  -- A number that a word can hold is the number of that word.
  simp only [word?, Option.map_eq_some_iff, integerWithin?_eq_some]
  have least := code.le_toInt
  have greatest := code.toInt_lt
  constructor
  · rintro ⟨number, ⟨counts, low, high⟩, rfl⟩
    rwa [Int32.toInt_ofInt_of_le (by omega) (by omega)]
  · intro counts
    exact ⟨code.toInt, ⟨counts, by omega, by omega⟩, Int32.ofInt_toInt code⟩

theorem text?_of_spells {text : String} (spells : value.Spells text) :
    value.text? = some text := by
  rw [spells]
  rfl

/-- A value is an array whose items tell contents, one by one. -/
def Lists {α : Type} (tells : RawValue → α → Prop) (value : RawValue) (contents : List α) : Prop :=
  ∃ items, value = .array items ∧ List.Forall₂ tells items contents

theorem Lists.mono {α : Type} {tells others : RawValue → α → Prop} {contents : List α}
    (narrow : ∀ value content, tells value content → others value content)
    (lists : value.Lists tells contents) : value.Lists others contents := by
  obtain ⟨items, same, every⟩ := lists
  exact ⟨items, same, every.imp narrow⟩

/-- An array that tells no contents is empty. -/
theorem Lists.nil {α : Type} {tells : RawValue → α → Prop} (lists : value.Lists tells []) :
    value = .array [] := by
  obtain ⟨items, same, every⟩ := lists
  cases every
  exact same

/-- An array is read item by item, and none of them may be one that is not read. -/
theorem items?_eq_some {α : Type} {read : RawValue → Option α} {contents : List α} :
    value.items? read = some contents ↔
      value.Lists (fun item content => read item = some content) contents := by
  have every (items : List RawValue) : items.mapM read = some contents ↔
      List.Forall₂ (fun item content => read item = some content) items contents := by
    -- The head is read before the rest, and either may be what is not read.
    induction items generalizing contents with
    | nil => simp [eq_comm]
    | cons item rest ih =>
      simp only [List.mapM_cons, Option.bind_eq_bind, Option.bind_eq_some_iff, Option.pure_def,
        Option.some.injEq, List.forall₂_cons_left_iff]
      constructor
      · rintro ⟨content, head, others, tail, rfl⟩
        exact ⟨content, others, head, ih.mp tail, rfl⟩
      · rintro ⟨content, others, head, tail, rfl⟩
        exact ⟨content, head, others, ih.mpr tail, rfl⟩
  cases value with
  | array items => simp [items?, Lists, every]
  | _ => simp [items?, Lists]

end RawValue

end DocWire
