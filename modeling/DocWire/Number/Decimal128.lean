import DocWire.Bytes
import DocWire.Number.Integer

/-! Decimal floating point in sixteen bytes: a sign, an exponent of fourteen bits and at most
thirty-four digits. -/

namespace DocWire.Number

/-- A decimal number, or one of the values that are none. -/
inductive Decimal128 where
  | nan (negative signalling : Bool)
  | infinity (negative : Bool)
  | finite (negative : Bool) (exponent : Int) (digits : Nat)
deriving DecidableEq, Repr, Inhabited

namespace Decimal128

/-- The most digits that a number has. -/
def precision : Nat := 34

/-- The least exponent; the encoded one counts from it. -/
def leastExponent : Int := -6176

/-- The greatest exponent. -/
def greatestExponent : Int := 6111

/-- The word of a number, most significant the sign, then what tells its form. -/
def toNat : Decimal128 → Nat
  | nan negative signalling =>
    -- Five bits tell that it is no number, the next whether that is to be signalled.
    negative.toNat * Nat.pow 2 127 + 31 * Nat.pow 2 122 + signalling.toNat * Nat.pow 2 121
  | infinity negative => negative.toNat * Nat.pow 2 127 + 30 * Nat.pow 2 122
  | finite negative exponent digits =>
    negative.toNat * Nat.pow 2 127 + (exponent - leastExponent).toNat * Nat.pow 2 113 + digits

/-- The number that a word stands for; digits beyond the precision count as zero. -/
def ofNat (word : Nat) : Decimal128 :=
  let negative := word / Nat.pow 2 127 % 2 = 1
  let form := word / Nat.pow 2 122 % 32
  if form = 31 then nan negative (word / Nat.pow 2 121 % 2 = 1)
  else if form = 30 then infinity negative
  -- The second layout of the digits only has room for too many of them.
  else if form / 8 = 3 then finite negative (word / Nat.pow 2 111 % Nat.pow 2 14 + leastExponent) 0
  else
    let digits := word % Nat.pow 2 113
    finite negative (word / Nat.pow 2 113 % Nat.pow 2 14 + leastExponent)
      (if digits < Nat.pow 10 precision then digits else 0)

/-- The bytes of a number, least significant first. -/
def toBytes (number : Decimal128) : Bytes := Bytes.ofNat 16 number.toNat

/-- The number as its notation tells it, where nothing but the name is left of what is none. -/
def noted : Decimal128 → Decimal128
  | nan _ _ => nan false false
  | number => number

/-- The bytes of the number that bytes stand for, written in the one preferred way. -/
def canonical (bytes : Bytes) : Bytes := (ofNat (Bytes.toNat bytes)).noted.toBytes

/-- Cuts digits down to a size, when only zeros fall away. -/
def cut? (digits : List Char) (size : Nat) : Option (List Char) :=
  if (digits.drop size).all (· == '0') then some (digits.take size) else none

/-- Leaves out the zeros in front; where nothing is left, or there was nothing, one stays. -/
def significant (digits : List Char) : List Char :=
  match digits.dropWhile (· == '0') with
  | [] => ['0']
  | rest => rest

/-- A whole number in the range of signed sixteen-bit words. -/
def short? (number : Int) : Option Int :=
  if -0x8000 ≤ number ∧ number ≤ 0x7fff then some number else none

/-- Brings the digits and the exponent into range, when no digit but zeros is lost or added. -/
def fit? (digits : List Char) (exponent : Int) : Option (List Char × Int) := do
  let excess := digits.length - precision
  let digits ← cut? digits (digits.length - excess)
  let exponent ← short? (exponent + excess)
  -- Zero fits at any exponent.
  if digits = ['0'] then return (digits, max leastExponent (min greatestExponent exponent))
  else if exponent < leastExponent then
    let missing := (leastExponent - exponent).toNat
    if digits.length < missing then none
    else return (← cut? digits (digits.length - missing), leastExponent)
  else
    let surplus := (exponent - greatestExponent).toNat
    if precision < digits.length + surplus ∧ 0 < surplus then none
    else return (digits ++ List.replicate surplus '0', exponent - surplus)

/-- Reads digits with an optional point and an optional power of ten, all in small letters; no
digits spell zero. -/
def finite? (negative : Bool) (chars : List Char) : Option Decimal128 := do
  let power ← match chars.dropWhile (· ≠ 'e') with
    | [] => some 0
    | _ :: power => signed? power
  let mantissa := chars.takeWhile (· ≠ 'e')
  let fraction := (mantissa.dropWhile (· ≠ '.')).tail
  -- The point goes, and the exponent makes up for it.
  let exponent ← short? ((← short? power) - (← short? fraction.length))
  let digits := significant (mantissa.takeWhile (· ≠ '.') ++ fraction)
  let (digits, exponent) ← fit? digits exponent
  return finite negative exponent (← unsigned? digits)

/-- The number that a text spells. -/
def parse? (text : String) : Option Decimal128 :=
  let (negative, rest) := splitSign text.toList
  let small := rest.map Char.toLower
  match String.ofList small with
  | "nan" => some (nan negative false)
  | "snan" => some (nan negative true)
  | "infinity" | "inf" => some (infinity negative)
  | _ => finite? negative small

end Decimal128
end DocWire.Number
