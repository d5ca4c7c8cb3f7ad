import DocWire.Number.Integer

/-! Moments in time: milliseconds since the start of 1970, and the notation by date, time and
distance from universal time. -/

namespace DocWire.Moment

/-- Whether a year has a day more. -/
def isLeap (year : Int) : Bool := year % 4 = 0 && (year % 100 ≠ 0 || year % 400 = 0)

/-- How many days a month has. -/
def daysInMonth (year : Int) (month : Nat) : Nat :=
  match month with
  | 2 => if isLeap year then 29 else 28
  | 4 | 6 | 9 | 11 => 30
  | _ => 31

/-- The days of the months before a month, in a year that starts with March. -/
def daysBeforeMonth (fromMarch : Nat) : Nat := (153 * fromMarch + 2) / 5

/-- The days from the first of January 1970 to a date. -/
def daysFromEpoch (year : Int) (month day : Nat) : Int :=
  -- The leap day is the last of a year that starts with March.
  let year := if month ≤ 2 then year - 1 else year
  let fromMarch := (month + 9) % 12
  365 * year + year / 4 - year / 100 + year / 400 + daysBeforeMonth fromMarch + day - 719469

/-- The date that is so many days after the first of January 1970. -/
def dateOf (days : Int) : Int × Nat × Nat :=
  let fromStart := days + 719468
  let era := fromStart / 146097
  let ofEra := fromStart % 146097
  -- Days that leap years add are taken off before the years are counted.
  let yearOfEra := (ofEra - ofEra / 1460 + ofEra / 36524 - ofEra / 146096) / 365
  let ofYear := (ofEra - (365 * yearOfEra + yearOfEra / 4 - yearOfEra / 100)).toNat
  let fromMarch := (5 * ofYear + 2) / 153
  let month := (fromMarch + 2) % 12 + 1
  let year := yearOfEra + era * 400
  (if month ≤ 2 then year + 1 else year, month, ofYear - daysBeforeMonth fromMarch + 1)

/-- A part of a notation that has a fixed number of digits, and what follows it. -/
def take? (width : Nat) (chars : List Char) : Option (Nat × List Char) := do
  if chars.length < width then none
  else return (← Number.digits? (chars.take width), chars.drop width)

/-- What follows a character. -/
def skip? (c : Char) : List Char → Option (List Char)
  | [] => none
  | head :: rest => if head = c then some rest else none

/-- The billionths of a second that digits after a point spell; digits beyond the ninth do not
count. -/
def nanoseconds? (chars : List Char) : Option (Nat × List Char) :=
  match chars with
  | '.' :: rest =>
    let digits := rest.takeWhile Char.isDigit
    let nine := (digits ++ List.replicate 9 '0').take 9
    -- A point without digits spells nothing.
    if digits = [] then none
    else (Number.digits? nine).map fun n => (n, rest.dropWhile Char.isDigit)
  | rest => some (0, rest)

/-- The distance from universal time in seconds, at the very end of a notation. -/
def offset? : List Char → Option Int
  | ['Z'] | ['z'] => some 0
  | sign :: chars => do
    let (hours, chars) ← take? 2 chars
    let chars ← skip? ':' chars
    let (minutes, chars) ← take? 2 chars
    let distance : Int := hours * 3600 + minutes * 60
    if chars ≠ [] ∨ 23 < hours ∨ 59 < minutes then none
    else if sign = '+' then some distance
    else if sign = '-' then some (-distance)
    else none
  | [] => none

/-- The date at the front of a notation, and what follows it. -/
def date? (chars : List Char) : Option ((Nat × Nat × Nat) × List Char) := do
  let (year, chars) ← take? 4 chars
  let (month, chars) ← take? 2 (← skip? '-' chars)
  let (day, chars) ← take? 2 (← skip? '-' chars)
  if 1 ≤ month ∧ month ≤ 12 ∧ 1 ≤ day ∧ day ≤ daysInMonth year month then
    some ((year, month, day), chars)
  else none

/-- The time at the front of a notation as seconds of the day, and what follows it; a minute may
seem to have a second more. -/
def time? (chars : List Char) : Option ((Nat × Bool) × List Char) := do
  let (hours, chars) ← take? 2 chars
  let (minutes, chars) ← take? 2 (← skip? ':' chars)
  let (seconds, chars) ← take? 2 (← skip? ':' chars)
  if 23 < hours ∨ 59 < minutes ∨ 60 < seconds then none
  else some ((hours * 3600 + minutes * 60 + min seconds 59, seconds = 60), chars)

/-- Whether a second is the last of a month, in universal time. -/
def endsMonth (seconds : Int) : Bool :=
  let (_, _, day) := dateOf ((seconds + 1) / 86400)
  (seconds + 1) % 86400 = 0 && day = 1

/-- The milliseconds since the start of 1970 that a notation spells. -/
def parse? (text : String) : Option Int := do
  let ((year, month, day), chars) ← date? text.toList
  -- Any single character of the plainest kind may stand between the date and the time.
  let separator ← chars.head?
  if 128 ≤ separator.toNat then none
  let ((time, leaps), chars) ← time? chars.tail
  let (fraction, chars) ← nanoseconds? chars
  let seconds := daysFromEpoch year month day * 86400 + time - (← offset? chars)
  -- A second more is only ever put in at the end of a month, and is told as the moment before it.
  if leaps ∧ !endsMonth seconds then none
  else
    let nanoseconds := seconds * 1000000000 + if leaps then 999999999 else fraction
    some (nanoseconds.tdiv 1000000)

/-- The first millisecond whose year does not fit four digits. -/
def limit : Int := 253402300800000

/-- The fraction of a second behind a point, without zeros at the end. -/
def fractionText (millis : Nat) : String :=
  if millis = 0 then ""
  else if millis % 100 = 0 then "." ++ toString (millis / 100)
  else if millis % 10 = 0 then "." ++ Number.padded 2 (millis / 10)
  else "." ++ Number.padded 3 millis

/-- The notation of a moment after the start of 1970, in universal time. -/
def text (millis : Nat) : String :=
  let seconds := millis / 1000
  let (year, month, day) := dateOf (seconds / 86400)
  let ofDay := seconds % 86400
  Number.padded 4 year.toNat ++ "-" ++ Number.padded 2 month ++ "-" ++ Number.padded 2 day ++ "T" ++
    Number.padded 2 (ofDay / 3600) ++ ":" ++ Number.padded 2 (ofDay / 60 % 60) ++ ":" ++
    Number.padded 2 (ofDay % 60) ++ fractionText (millis % 1000) ++ "Z"

end DocWire.Moment
