import DocWire.Number.Integer

/-! Binary floating point in sixty-four bits: the nearest one to a number in decimal notation. -/

namespace DocWire.Number.Binary64

/-- The bits of positive infinity: the greatest exponent, and no fraction. -/
def infinity : UInt64 := 0x7ff0000000000000

/-- The bits of what is no number. -/
def nan : UInt64 := 0x7ff8000000000000

/-- Sets the sign bit, if the number is negative. -/
def withSign (negative : Bool) (bits : UInt64) : UInt64 :=
  if negative then bits ||| 0x8000000000000000 else bits

/-- The whole number nearest to a fraction; of two equally near, the even one. -/
def roundHalfEven (num den : Nat) : Nat :=
  let quotient := num / den
  let rest := 2 * (num % den)
  -- A rest of exactly one half decides by the last digit.
  if den < rest ∨ (rest = den ∧ quotient % 2 = 1) then quotient + 1 else quotient

/-- The fraction `num / den` divided by a power of two, as a pair. -/
def scaleDown (num den : Nat) (exponent : Int) : Nat × Nat :=
  if 0 ≤ exponent then (num, den * Nat.pow 2 exponent.toNat)
  else (num * Nat.pow 2 (-exponent).toNat, den)

/-- The exponent at which a positive fraction has fifty-three significant bits, or the least one
there is. -/
def exponentOf (num den : Nat) : Int :=
  let guess := (num.log2 : Int) - den.log2 - 52
  let (top, bottom) := scaleDown num den guess
  -- The guess is right or one too great.
  max (-1074) (if top / bottom < Nat.pow 2 52 then guess - 1 else guess)

/-- The bits of the double nearest to a positive fraction. -/
def ofFraction (num den : Nat) : UInt64 :=
  let exponent := exponentOf num den
  let (top, bottom) := scaleDown num den exponent
  -- A significand that is rounded up to the next power of two carries into the exponent.
  let bits := roundHalfEven top bottom + (exponent + 1074).toNat * Nat.pow 2 52
  if infinity.toNat ≤ bits then infinity else UInt64.ofNat bits

/-- The bits of the double nearest to a decimal number, digits and a power of ten. -/
def ofDecimal (digits : Nat) (exponent : Int) : UInt64 :=
  let size : Int := (Nat.toDigits 10 digits).length + exponent
  -- Far beyond the greatest and below the least double the power itself is never needed.
  if digits = 0 ∨ size < -400 then 0
  else if 400 < size then infinity
  else if 0 ≤ exponent then ofFraction (digits * Nat.pow 10 exponent.toNat) 1
  else ofFraction digits (Nat.pow 10 (-exponent).toNat)

/-- Reads digits with an optional point and an optional power of ten. -/
def unsigned? (chars : List Char) : Option UInt64 := do
  let whole := chars.takeWhile Char.isDigit
  let (fraction, rest) := match chars.dropWhile Char.isDigit with
    | '.' :: rest => (rest.takeWhile Char.isDigit, rest.dropWhile Char.isDigit)
    | rest => ([], rest)
  -- Digits may be missing on one side of the point.
  let digits ← digits? (whole ++ fraction)
  let power ← match rest with
    | [] => some 0
    | mark :: power => if mark = 'e' ∨ mark = 'E' then signed? power else none
  return ofDecimal digits (power - fraction.length)

/-- The bits of the double nearest to what a text spells, infinities and no number included. -/
def parse? (text : String) : Option UInt64 :=
  let (negative, rest) := splitSign text.toList
  let bits? := match String.ofList (rest.map Char.toLower) with
    | "inf" | "infinity" => some infinity
    | "nan" => some nan
    | _ => unsigned? rest
  -- Zeros, infinities and no number have signs too.
  bits?.map (withSign negative)

end DocWire.Number.Binary64
