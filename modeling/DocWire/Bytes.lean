/-! Byte strings, the little-endian words inside them and their hexadecimal text. -/

namespace DocWire

/-- A byte string, in the order in which it travels. -/
abbrev Bytes := List UInt8

namespace Bytes

/-- The low `width` bytes of a number, least significant first. -/
def ofNat : (width : Nat) → Nat → Bytes
  | 0, _ => []
  -- The conversion keeps the remainder, and the quotient goes to the bytes after it.
  | width + 1, n => UInt8.ofNat n :: ofNat width (n / 256)

/-- The number whose bytes are given least significant first. -/
def toNat : Bytes → Nat
  | [] => 0
  | byte :: rest => byte.toNat + 256 * toNat rest

/-- The four bytes of a signed word. -/
def ofInt32 (word : Int32) : Bytes := ofNat 4 word.toUInt32.toNat

/-- The eight bytes of a signed long word. -/
def ofInt64 (word : Int64) : Bytes := ofNat 8 word.toUInt64.toNat

/-- The four bytes of an unsigned word. -/
def ofUInt32 (word : UInt32) : Bytes := ofNat 4 word.toNat

/-- The eight bytes of an unsigned long word. -/
def ofUInt64 (word : UInt64) : Bytes := ofNat 8 word.toNat

/-- The signed word that four bytes spell. -/
def toInt32 (bytes : Bytes) : Int32 := (UInt32.ofNat (toNat bytes)).toInt32

/-- The signed long word that eight bytes spell. -/
def toInt64 (bytes : Bytes) : Int64 := (UInt64.ofNat (toNat bytes)).toInt64

/-- The unsigned word that four bytes spell. -/
def toUInt32 (bytes : Bytes) : UInt32 := UInt32.ofNat (toNat bytes)

/-- The unsigned long word that eight bytes spell. -/
def toUInt64 (bytes : Bytes) : UInt64 := UInt64.ofNat (toNat bytes)

/-- The first `count` bytes and the rest, when there are that many. -/
def split? (count : Nat) (bytes : Bytes) : Option (Bytes × Bytes) :=
  if count ≤ bytes.length then some (bytes.take count, bytes.drop count) else none

/-- The bytes of a text. -/
def ofString (text : String) : Bytes := text.toUTF8.data.toList

/-- The text that the bytes spell, when they are well-formed. -/
def toString? (bytes : Bytes) : Option String := String.fromUTF8? ⟨bytes.toArray⟩

/-- The bytes before the first zero and the bytes after it. -/
def splitAtZero? : Bytes → Option (Bytes × Bytes)
  | [] => none
  | byte :: rest =>
    -- The zero itself belongs to neither part.
    if byte = 0 then some ([], rest)
    else (splitAtZero? rest).map fun (front, back) => (byte :: front, back)

/-- The digit for a number below sixteen. -/
def hexDigit (n : Nat) : Char :=
  -- The digit for zero has code 48, the letter for ten code 97.
  if n < 10 then Char.ofNat (n + 48) else Char.ofNat (n + 87)

/-- Two lower-case digits for each byte. -/
def toHex (bytes : Bytes) : String :=
  String.ofList (bytes.flatMap fun byte => [hexDigit (byte.toNat / 16), hexDigit (byte.toNat % 16)])

/-- The value of a hexadecimal digit of either case. -/
def hexValue? (c : Char) : Option Nat :=
  if '0' ≤ c ∧ c ≤ '9' then some (c.toNat - 48)
  else if 'a' ≤ c ∧ c ≤ 'f' then some (c.toNat - 87)
  else if 'A' ≤ c ∧ c ≤ 'F' then some (c.toNat - 55)
  else none

/-- The bytes that pairs of hexadecimal digits spell. -/
def ofHexDigits? : List Char → Option Bytes
  | [] => some []
  -- An odd number of digits spells no bytes.
  | [_] => none
  | high :: low :: rest => do
    let byte := (← hexValue? high) * 16 + (← hexValue? low)
    return UInt8.ofNat byte :: (← ofHexDigits? rest)

/-- The bytes that a hexadecimal text spells. -/
def ofHex? (text : String) : Option Bytes := ofHexDigits? text.toList

/-- A text read back from its own bytes is the same text. -/
theorem toString?_ofString (text : String) : toString? (ofString text) = some text := by
  -- The array survives the trip through a list, so the bytes are the text's own valid bytes.
  simp only [toString?, ofString, Array.toArray_toList, String.fromUTF8?]
  exact dif_pos text.isValidUTF8

/-- A number below the capacity of its bytes is read back from them. -/
theorem toNat_ofNat (width n : Nat) (fits : n < Nat.pow 256 width) :
    toNat (ofNat width n) = n := by
  -- Each byte takes one remainder and leaves the quotient to the bytes after it.
  induction width generalizing n with
  | zero => simp at fits; simp [ofNat, toNat, fits]
  | succ width ih =>
    have small : n / 256 < Nat.pow 256 width := by
      have shifted : n < 256 * Nat.pow 256 width := Nat.mul_comm .. ▸ fits
      exact Nat.div_lt_of_lt_mul shifted
    simp only [ofNat, toNat, ih _ small, UInt8.toNat_ofNat']
    omega

/-- A word of a given width has that many bytes. -/
theorem length_ofNat (width n : Nat) : (ofNat width n).length = width := by
  -- Every step of the width writes one byte, whatever is left of the number.
  induction width generalizing n with
  | zero => rfl
  | succ width ih => simp [ofNat, ih]

end Bytes
end DocWire
