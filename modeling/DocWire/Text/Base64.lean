import DocWire.Bytes

/-! Bytes written with sixty-four characters, four of them for every three bytes. -/

namespace DocWire.Base64

/-- The six bits that a character stands for. -/
def value? (c : Char) : Option Nat :=
  if 'A' ≤ c ∧ c ≤ 'Z' then some (c.toNat - 65)
  else if 'a' ≤ c ∧ c ≤ 'z' then some (c.toNat - 71)
  else if '0' ≤ c ∧ c ≤ '9' then some (c.toNat + 4)
  else if c = '+' then some 62
  else if c = '/' then some 63
  else none

/-- The bytes of a group of which two characters are left out. -/
def one? (a b : Char) : Option Bytes := do
  let bits := (← value? a) * 64 + (← value? b)
  -- The bits that belong to no byte have to be zero.
  if bits % 16 = 0 then some [UInt8.ofNat (bits / 16)] else none

/-- The bytes of a group of which one character is left out. -/
def two? (a b c : Char) : Option Bytes := do
  let bits := ((← value? a) * 64 + (← value? b)) * 64 + (← value? c)
  if bits % 4 = 0 then some [UInt8.ofNat (bits / 1024), UInt8.ofNat (bits / 4)] else none

/-- The bytes of a whole group. -/
def three? (a b c d : Char) : Option Bytes := do
  let bits := (((← value? a) * 64 + (← value? b)) * 64 + (← value? c)) * 64 + (← value? d)
  return [UInt8.ofNat (bits / 65536), UInt8.ofNat (bits / 256), UInt8.ofNat bits]

/-- The bytes that the characters spell, the last group filled up with equals signs. -/
def decode? : List Char → Option Bytes
  | [] => some []
  | [a, b, '=', '='] => one? a b
  | [a, b, c, '='] => two? a b c
  | a :: b :: c :: d :: rest => do return (← three? a b c d) ++ (← decode? rest)
  | _ => none

end DocWire.Base64
