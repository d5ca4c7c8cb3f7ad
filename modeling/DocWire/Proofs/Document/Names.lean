import DocWire.FieldName
import DocWire.Proofs.Document.Fields

/-! Names in documents at every depth, and what a rule says of them: a document passes when the rule
allows each name that it is about, and the first name that it does not allow is the one that is
told. -/

namespace DocWire

section Depth

/-- A document lies in a value: it is the value, or it lies in an item of the array that the value
is. -/
inductive Value.Holds : Value → Document → Prop where
  | itself (fields : Document) : Holds (.document fields) fields
  | item {items : List Value} {item : Value} {fields : Document} (among : item ∈ items)
    (inside : item.Holds fields) : Holds (.array items) fields

/-- A name stands in a document: a field bears it, or it stands in a document that lies in the value
of a field. -/
inductive Document.Mentions : Document → String → Prop where
  | field {document : Document} {field : String × Value} (among : field ∈ document) :
    Mentions document field.1
  | inside {document inner : Document} {field : String × Value} {name : String}
    (among : field ∈ document) (held : field.2.Holds inner) (deeper : inner.Mentions name) :
    Mentions document name

mutual

/-- The names that stand in a document, in their order: each name comes before those in its value,
and these before the next name. -/
def namesWithin : List (String × Value) → List String
  | [] => []
  | (name, value) :: rest => name :: (value.namesWithin ++ namesWithin rest)

/-- The names that stand in the documents in a value. -/
def Value.namesWithin : Value → List String
  | .document fields => DocWire.namesWithin fields
  | .array items => namesWithinItems items
  | _ => []

/-- The names that stand in the documents in the items of an array. -/
def namesWithinItems : List Value → List String
  | [] => []
  | value :: rest => value.namesWithin ++ namesWithinItems rest

end

variable {document inner : Document} {value : Value} {name : String}

theorem Document.Mentions.cons (mentioned : document.Mentions name) (field : String × Value) :
    Document.Mentions (field :: document) name := by
  cases mentioned with
  | field among => exact .field (List.mem_cons_of_mem _ among)
  | inside among held deeper => exact .inside (List.mem_cons_of_mem _ among) held deeper

mutual

/-- Whatever is listed stands in the document. -/
theorem mentions_of_mem_namesWithin : ∀ (fields : List (String × Value)) {name : String},
    name ∈ namesWithin fields → Document.Mentions fields name
  | (key, value) :: rest, name, listed => by
    rw [namesWithin, List.mem_cons, List.mem_append] at listed
    rcases listed with rfl | within | later
    · exact .field (List.mem_cons_self (a := (name, value)))
    · obtain ⟨inner, held, deeper⟩ := Value.mentions_of_mem_namesWithin value within
      exact .inside (List.mem_cons_self (a := (key, value))) held deeper
    · exact (mentions_of_mem_namesWithin rest later).cons _

theorem Value.mentions_of_mem_namesWithin : ∀ (value : Value) {name : String},
    name ∈ value.namesWithin → ∃ inner, value.Holds inner ∧ inner.Mentions name
  | .document fields, name, listed =>
    ⟨fields, .itself fields, DocWire.mentions_of_mem_namesWithin fields listed⟩
  | .array items, name, listed => by
    obtain ⟨item, among, inner, held, deeper⟩ := mentions_of_mem_namesWithinItems items listed
    exact ⟨inner, .item among held, deeper⟩

theorem mentions_of_mem_namesWithinItems : ∀ (items : List Value) {name : String},
    name ∈ namesWithinItems items → ∃ item ∈ items, ∃ inner, item.Holds inner ∧ inner.Mentions name
  | value :: rest, name, listed => by
    rw [namesWithinItems, List.mem_append] at listed
    rcases listed with within | later
    · obtain ⟨inner, held, deeper⟩ := Value.mentions_of_mem_namesWithin value within
      exact ⟨value, List.mem_cons_self .., inner, held, deeper⟩
    · obtain ⟨item, among, found⟩ := mentions_of_mem_namesWithinItems rest later
      exact ⟨item, List.mem_cons_of_mem _ among, found⟩

end

/-- The names that a field brings are listed with those of the document. -/
theorem subset_namesWithin {field : String × Value} (among : field ∈ document) :
    field.1 :: field.2.namesWithin ⊆ namesWithin document := by
  induction document with
  | nil => cases among
  | cons first rest ih =>
    rw [namesWithin, ← List.cons_append]
    rcases List.mem_cons.mp among with rfl | later
    · exact List.subset_append_left ..
    · exact List.subset_append_of_subset_right _ (ih later)

theorem subset_namesWithinItems {items : List Value} (among : value ∈ items) :
    value.namesWithin ⊆ namesWithinItems items := by
  induction items with
  | nil => cases among
  | cons first rest ih =>
    rw [namesWithinItems]
    rcases List.mem_cons.mp among with rfl | later
    · exact List.subset_append_left ..
    · exact List.subset_append_of_subset_right _ (ih later)

/-- The names of a document that lies in a value are listed with those of the value. -/
theorem Value.Holds.subset (held : value.Holds inner) :
    DocWire.namesWithin inner ⊆ value.namesWithin := by
  induction held with
  | itself fields => exact List.Subset.refl _
  | item among inside ih => exact List.Subset.trans ih (subset_namesWithinItems among)

/-- A name stands in a document exactly when it is listed. -/
theorem mem_namesWithin_iff : name ∈ namesWithin document ↔ document.Mentions name := by
  constructor
  · exact mentions_of_mem_namesWithin document
  · intro mentioned
    induction mentioned with
    | field among => exact subset_namesWithin among (List.mem_cons_self ..)
    | inside among held deeper ih =>
      exact subset_namesWithin among (List.mem_cons_of_mem _ (held.subset ih))

end Depth

section Rules

variable {rule : NameRule} {document : Document}

mutual

/-- A rule that goes for the insides of values is about all names that stand in a document. -/
theorem offending?_deep (deep : rule.inside = rule) : ∀ fields,
    offending? rule fields = (namesWithin fields).find? fun name => !rule.allows name
  | [] => rfl
  | (name, value) :: rest => by
    rw [offending?, namesWithin, List.find?_cons, deep, offendingValue?_deep deep value,
      offending?_deep deep rest, List.find?_append]
    cases rule.allows name with
    | false => rfl
    | true =>
      -- The value is asked first, and the fields behind it only when nothing is wrong there.
      simp only [if_true, Bool.not_true]
      cases value.namesWithin.find? fun name => !rule.allows name <;> rfl

theorem offendingValue?_deep (deep : rule.inside = rule) : ∀ value : Value,
    offendingValue? rule value = value.namesWithin.find? fun name => !rule.allows name
  | .document fields => offending?_deep deep fields
  | .array items => offendingItems?_deep deep items
  | .double _ | .string _ | .binary .. | .undefined | .objectId _ | .boolean _ | .dateTime _
  | .null | .regex .. | .dbPointer .. | .code _ | .symbol _ | .codeWithScope .. | .int32 _
  | .timestamp .. | .int64 _ | .decimal128 _ | .minKey | .maxKey => rfl

theorem offendingItems?_deep (deep : rule.inside = rule) : ∀ items,
    offendingItems? rule items = (namesWithinItems items).find? fun name => !rule.allows name
  | [] => rfl
  | value :: rest => by
    rw [offendingItems?, namesWithinItems, offendingValue?_deep deep value,
      offendingItems?_deep deep rest, List.find?_append]
    cases value.namesWithin.find? fun name => !rule.allows name <;> rfl

end

/-- The rule that allows any name finds nothing wrong inside a value. -/
theorem offendingValue?_any (value : Value) : offendingValue? .any value = none := by
  rw [offendingValue?_deep rfl]
  exact List.find?_eq_none.mpr fun name _ => by simp [NameRule.allows]

/-- A rule that lets the insides of values alone is about the names of the fields. -/
theorem offending?_flat (flat : rule.inside = .any) (document : Document) :
    offending? rule document = document.names.find? fun name => !rule.allows name := by
  induction document with
  | nil => rfl
  | cons field rest ih =>
    rw [offending?, flat, offendingValue?_any, ih, Document.names, Document.names, List.map_cons,
      List.find?_cons]
    cases rule.allows field.1 <;> rfl

/-- The names of a document that a rule is about, in the order in which they stand. -/
def NameRule.judged (rule : NameRule) (document : Document) : List String :=
  match rule with
  | collectible => namesWithin document
  | any | update | replacement => document.names

theorem offending?_eq (rule : NameRule) (document : Document) :
    offending? rule document = (rule.judged document).find? fun name => !rule.allows name := by
  cases rule with
  | collectible => exact offending?_deep rfl document
  | any => exact offending?_flat rfl document
  | update => exact offending?_flat rfl document
  | replacement => exact offending?_flat rfl document

/-- A document passes when the rule allows each name that it is about. -/
theorem checkNames_eq_ok :
    checkNames rule document = .ok () ↔ ∀ name ∈ rule.judged document, rule.allows name = true := by
  have passes : checkNames rule document = .ok () ↔ offending? rule document = none := by
    unfold checkNames
    cases offending? rule document <;> simp [refuse]
  rw [passes, offending?_eq, List.find?_eq_none]
  simp

theorem checkNames_any (document : Document) : checkNames .any document = .ok () :=
  checkNames_eq_ok.mpr fun _ _ => rfl

/-- A document is refused for the first name that the rule does not allow. -/
theorem checkNames_eq_error {cause : Cause} :
    checkNames rule document = .error cause ↔ ∃ before name after,
      rule.judged document = before ++ name :: after ∧
      (∀ earlier ∈ before, rule.allows earlier = true) ∧ rule.allows name = false ∧
      cause = .argument (.fieldName name) := by
  have fails : checkNames rule document = .error cause ↔
      ∃ name, offending? rule document = some name ∧ .argument (.fieldName name) = cause := by
    unfold checkNames
    cases offending? rule document <;> simp [refuse]
  rw [fails]
  simp only [offending?_eq, List.find?_eq_some_iff_append, Bool.not_eq_true', Bool.not_not]
  -- The first name that is not allowed is the one with only allowed names in front of it.
  constructor
  · rintro ⟨name, ⟨wrong, before, after, listed, allowed⟩, rfl⟩
    exact ⟨before, name, after, listed, by simpa using allowed, wrong, rfl⟩
  · rintro ⟨before, name, after, listed, allowed, wrong, rfl⟩
    exact ⟨name, ⟨wrong, before, after, listed, by simpa using allowed⟩, rfl⟩

/-- A name is that of an operator when it begins with the sign of one. -/
theorem NameRule.isOperator_iff {name : String} :
    isOperator name = true ↔ ['$'] <+: name.toList := by
  rw [isOperator]
  cases name.toList with
  | nil => simp
  | cons first rest =>
    simp only [List.head?_cons, beq_iff_eq, Option.some.injEq, List.cons_prefix_cons,
      List.nil_prefix, and_true]
    exact eq_comm

/-- A document that is to be stored passes exactly when no name that stands in it, at any depth,
begins with the sign of an operator or has a dot. An update passes exactly when all its fields bear
names of operators, and a replacement when none of them does, whatever stands inside their values.
Any document that does not pass is refused for the first of its names that is not allowed. -/
theorem checkNames_outcome (document : Document) :
    (checkNames .collectible document = .ok () ↔
      ∀ name, document.Mentions name → ¬ ['$'] <+: name.toList ∧ '.' ∉ name.toList) ∧
    (checkNames .update document = .ok () ↔ ∀ name ∈ document.names, ['$'] <+: name.toList) ∧
    (checkNames .replacement document = .ok () ↔
      ∀ name ∈ document.names, ¬ ['$'] <+: name.toList) ∧
    ∀ rule cause, checkNames rule document = .error cause ↔ ∃ before name after,
      rule.judged document = before ++ name :: after ∧
      (∀ earlier ∈ before, rule.allows earlier = true) ∧ rule.allows name = false ∧
      cause = .argument (.fieldName name) := by
  refine ⟨?_, ?_, ?_, fun rule cause => checkNames_eq_error⟩
  · rw [checkNames_eq_ok]
    -- Of the three rules, this one judges the names at every depth.
    show (∀ name ∈ namesWithin document, _) ↔ _
    simp only [mem_namesWithin_iff, NameRule.allows, ← NameRule.isOperator_iff]
    simp
  · rw [checkNames_eq_ok]
    simp only [NameRule.judged, NameRule.allows, NameRule.isOperator_iff]
  · rw [checkNames_eq_ok]
    simp only [NameRule.judged, NameRule.allows, ← NameRule.isOperator_iff]
    simp

/-- In an array inside an array, the first of two wrong names is told. -/
example : offending? .collectible
    [("a", .array [.array [.document [("b", .null), ("c.d", .document [("$e", .null)])]]])]
      = some "c.d" := by decide

end Rules

end DocWire
