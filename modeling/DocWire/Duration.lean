/-! Lengths of time counted in nanoseconds, and their text in the largest unit that fits. -/

namespace DocWire

/-- A length of time. -/
structure Duration where
  nanoseconds : Nat
deriving DecidableEq, Repr, Inhabited

namespace Duration

/-- The longest length of time: as many seconds as 64 bits count, and almost one more. -/
def longest : Duration := ⟨Nat.pow 2 64 * 1000000000 - 1⟩

/-- Whole seconds and the nanoseconds after them. -/
def ofSeconds (seconds nanoseconds : Nat) : Duration := ⟨seconds * 1000000000 + nanoseconds⟩

/-- A number of milliseconds. -/
def ofMillis (millis : Nat) : Duration := ⟨millis * 1000000⟩

/-- The whole milliseconds, the rest dropped. -/
def millis (d : Duration) : Nat := d.nanoseconds / 1000000

/-- The sum, or the longest length of time when the sum is longer than that. -/
def addCapped (a b : Duration) : Duration :=
  -- Whatever would be longer counts as the longest.
  ⟨min (a.nanoseconds + b.nanoseconds) longest.nanoseconds⟩

/-- Drops the zeros at the end. -/
def trimZeros (digits : List Char) : List Char := (digits.reverse.dropWhile (· = '0')).reverse

/-- A count of units of ten to the `places`, exact, with no zero at the end of its fraction. -/
def inUnits (count places : Nat) (suffix : String) : String :=
  let whole := toString (count / Nat.pow 10 places)
  let digits := (toString (count % Nat.pow 10 places)).toList
  -- Zeros in front bring the fraction to its full number of places before the end is trimmed.
  let fraction := trimZeros (List.replicate (places - digits.length) '0' ++ digits)
  -- A whole count has no point.
  if fraction = [] then whole ++ suffix else whole ++ "." ++ String.ofList fraction ++ suffix

/-- The text in the largest unit that gives at least one, nothing being zero nanoseconds. -/
def text (d : Duration) : String :=
  if 1000000000 ≤ d.nanoseconds then inUnits d.nanoseconds 9 "s"
  else if 1000000 ≤ d.nanoseconds then inUnits d.nanoseconds 6 "ms"
  else if 1000 ≤ d.nanoseconds then inUnits d.nanoseconds 3 "µs"
  else inUnits d.nanoseconds 0 "ns"

end Duration
end DocWire
