import DocWire.Document.Basic

/-! Values as they are found in bytes: parts that cannot be read stand beside parts that can, so a
reader fails only where it looks. -/

namespace DocWire

/-- A value as it is found. -/
inductive RawValue where
  | atom (value : Value)
  | document (fields : List (String × RawValue))
  | array (items : List RawValue)
  | codeWithScope (source : String) (scope : List (String × RawValue))
  | broken
deriving Repr, Inhabited

mutual

/-- A whole value, all parts of which can be read. -/
def Value.raw : Value → RawValue
  | .document fields => .document (rawFields fields)
  | .array items => .array (rawItems items)
  | .codeWithScope source scope => .codeWithScope source (rawFields scope)
  -- What has no parts is taken over as it is.
  | value => .atom value

/-- The fields of a whole document. -/
def rawFields : List (String × Value) → List (String × RawValue)
  | [] => []
  | (key, value) :: rest => (key, value.raw) :: rawFields rest

/-- The items of a whole array. -/
def rawItems : List Value → List RawValue
  | [] => []
  | value :: rest => value.raw :: rawItems rest

end

instance : Coe Value RawValue := ⟨Value.raw⟩

mutual

/-- The whole value, when every part of it can be read. -/
def RawValue.whole? : RawValue → Option Value
  | .atom value => some value
  | .document fields => (wholeFields? fields).map .document
  | .array items => (wholeItems? items).map .array
  | .codeWithScope source scope => (wholeFields? scope).map (.codeWithScope source)
  | .broken => none

/-- The whole fields, when every part of them can be read. -/
def wholeFields? : List (String × RawValue) → Option (List (String × Value))
  | [] => some []
  | (key, value) :: rest => do
    -- A field that cannot be read spoils the whole.
    let value ← value.whole?
    return (key, value) :: (← wholeFields? rest)

/-- The whole items, when every part of them can be read. -/
def wholeItems? : List RawValue → Option (List Value)
  | [] => some []
  | value :: rest => do
    let value ← value.whole?
    return value :: (← wholeItems? rest)

end

/-- Whether every part of a value can be read. -/
def RawValue.isWhole (value : RawValue) : Bool := value.whole?.isSome

end DocWire
