import DocWire.Document.Basic

/-! Whole numbers held in any numeric type, when no part of the number is lost. -/

namespace DocWire

/-- The magnitude of a double as a whole number times a power of two, with its sign; infinities
and non-numbers have none. -/
def doubleParts? (bits : UInt64) : Option (Bool × Nat × Int) :=
  let exponent : Nat := bits.toNat / Nat.pow 2 52 % Nat.pow 2 11
  let fraction : Nat := bits.toNat % Nat.pow 2 52
  let negative := bits.toNat / Nat.pow 2 63 == 1
  -- The greatest exponent marks what is no finite number, the least has no hidden bit.
  if exponent = 2047 then none
  else if exponent = 0 then some (negative, fraction, -1074)
  else some (negative, fraction + Nat.pow 2 52, (exponent : Int) - 1075)

/-- The whole part of a magnitude whose fraction is at most two to the minus 52. -/
def wholePart? (mantissa : Nat) (exponent : Int) : Option Nat :=
  if 0 ≤ exponent then some (mantissa * Nat.pow 2 exponent.toNat)
  else
    -- The fraction is compared without dividing.
    let unit := Nat.pow 2 (-exponent).toNat
    if mantissa % unit * Nat.pow 2 52 ≤ unit then some (mantissa / unit) else none

/-- The long word nearest to a double, when it differs by at most two to the minus 52; two to
the 63 counts as the greatest long word. -/
def wholeOfDouble? (bits : UInt64) : Option Int64 := do
  let (negative, mantissa, exponent) ← doubleParts? bits
  let magnitude ← wholePart? mantissa exponent
  -- Both ends of the range are powers of two, which doubles hit exactly.
  if Nat.pow 2 63 < magnitude then none
  else if negative then some (Int64.ofInt (-magnitude))
  else some (Int64.ofInt (min (magnitude : Int) 0x7fffffffffffffff))

/-- The whole number a numeric value holds without loss. -/
def Value.whole? : Value → Option Int64
  | .int32 number => some number.toInt64
  | .int64 number => some number
  | .double bits => wholeOfDouble? bits
  | _ => none

end DocWire
