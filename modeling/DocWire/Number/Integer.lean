/-! Whole numbers in decimal digits. -/

namespace DocWire.Number

/-- The number that decimal digits spell; no digits spell none. -/
def digits? (digits : List Char) : Option Nat :=
  if digits ≠ [] ∧ digits.all Char.isDigit then
    some (digits.foldl (fun n c => n * 10 + (c.toNat - 48)) 0)
  else none

/-- The number that digits spell after an optional plus sign. -/
def unsigned? (chars : List Char) : Option Nat :=
  -- One sign may stand in front; alone it spells nothing.
  if chars.head? = some '+' then digits? chars.tail else digits? chars

/-- The sign in front of a number, of which only a minus counts, and what follows it. -/
def splitSign : List Char → Bool × List Char
  | '-' :: rest => (true, rest)
  | '+' :: rest => (false, rest)
  | chars => (false, chars)

/-- The number that digits spell after an optional sign. -/
def signed? (chars : List Char) : Option Int :=
  let (negative, rest) := splitSign chars
  (digits? rest).map fun n => if negative then -(n : Int) else n

/-- A signed number between two bounds. -/
def signedWithin? (low high : Int) (chars : List Char) : Option Int := do
  let number ← signed? chars
  if low ≤ number ∧ number ≤ high then some number else none

/-- A number in decimal digits, with zeros in front up to a width. -/
def padded (width n : Nat) : String :=
  let digits := Nat.toDigits 10 n
  String.ofList (List.replicate (width - digits.length) '0' ++ digits)

/-- A number is written in nothing but digits. -/
theorem not_mem_toString {c : Char} (other : c.isDigit = false) (n : Nat) :
    c ∉ (toString n).toList := by
  intro among
  rw [Nat.toString_eq_ofList_toDigits, String.toList_ofList] at among
  rw [Nat.isDigit_of_mem_toDigits (by omega) (by omega) among] at other
  cases other

end DocWire.Number
