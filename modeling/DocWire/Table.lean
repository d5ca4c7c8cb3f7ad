/-! Tables: values kept under numbers. -/

namespace DocWire

/-- Values under numbers, each number standing at most once. -/
structure Table (α : Type) where
  entries : List (Nat × α) := []
deriving Repr, Inhabited

namespace Table

/-- The first value under a number. -/
def getEntry? {α : Type} (key : Nat) : List (Nat × α) → Option α
  | [] => none
  | (other, value) :: rest => if other = key then some value else getEntry? key rest

/-- The value under a number, when there is one. -/
def get? {α : Type} (table : Table α) (key : Nat) : Option α := getEntry? key table.entries

/-- The value under a number, or else the default. -/
def get {α : Type} [Inhabited α] (table : Table α) (key : Nat) : α := (table.get? key).getD default

/-- Puts a value under a number. -/
def setEntries {α : Type} (key : Nat) (value : α) : List (Nat × α) → List (Nat × α)
  | [] => [(key, value)]
  | (other, old) :: rest =>
    -- Only the entry of this very number gives way.
    if other = key then (key, value) :: rest else (other, old) :: setEntries key value rest

/-- The table with a value under a number. -/
def set {α : Type} (table : Table α) (key : Nat) (value : α) : Table α :=
  ⟨setEntries key value table.entries⟩

/-- The value that was put under a number is found there, and all others stay as they were. -/
theorem get?_set {α : Type} (table : Table α) (key other : Nat) (value : α) :
    (table.set key value).get? other = if other = key then some value else table.get? other := by
  -- The entry is replaced where it stands, or comes last.
  obtain ⟨entries⟩ := table
  simp only [get?, set]
  induction entries with
  | nil =>
    by_cases same : other = key
    · simp [setEntries, getEntry?, same]
    · have : ¬ key = other := fun h => same h.symm
      simp [setEntries, getEntry?, same, this]
  | cons entry rest ih =>
    obtain ⟨front, old⟩ := entry
    by_cases here : front = key
    · subst here
      by_cases same : other = front
      · simp [setEntries, getEntry?, same]
      · have : ¬ front = other := fun h => same h.symm
        simp [setEntries, getEntry?, same, this]
    · by_cases found : front = other
      · subst found
        simp [setEntries, getEntry?, here]
      · simp [setEntries, getEntry?, here, found, ih]

end Table
end DocWire
