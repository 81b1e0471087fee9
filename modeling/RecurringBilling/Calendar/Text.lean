import RecurringBilling.Calendar
import RecurringBilling.Text

/-!
Dates and instants as text. A year from 0 to 9999 has four digits; a later one carries a plus sign
and an earlier one a minus sign.
-/

namespace RecurringBilling

open Calendar

namespace Calendar

def yearText (year : Int) : String :=
  if year < 0 then "-" ++ Text.padded 4 year.natAbs
  else if 9999 < year then "+" ++ toString year
  else Text.padded 4 year.natAbs

/-- The fraction of a second in no, three, six or nine digits, as few as it takes. -/
def fractionText (nanos : Nat) : String :=
  if nanos = 0 then ""
  else if nanos % 1000000 = 0 then "." ++ Text.padded 3 (nanos / 1000000)
  else if nanos % 1000 = 0 then "." ++ Text.padded 6 (nanos / 1000)
  else "." ++ Text.padded 9 nanos

end Calendar

namespace Date

/-- Year and month: `2024-06`. -/
def monthText (d : Date) : String := yearText d.year ++ "-" ++ Text.padded 2 d.month

def text (d : Date) : String := d.monthText ++ "-" ++ Text.padded 2 d.dayOfMonth

/-- The last two digits of the year. -/
def shortYearText (d : Date) : String := Text.padded 2 (d.year % 100).toNat

/-- A run of at most `limit` digits, at least one, and the number that they write. -/
def takeNumber? (limit : Nat) (cs : List Char) : Option (Nat × List Char) :=
  let digits := (cs.take limit).takeWhile Char.isDigit
  if digits.isEmpty then none
  else some (Text.natOfDigits digits, cs.drop digits.length)

/-- Why a text is not a date. -/
inductive Fault where
  | outOfRange
  | invalidCharacter
  | tooShort
  | tooLong
  deriving DecidableEq

def Fault.message : Fault → String
  | outOfRange => "input is out of range"
  | invalidCharacter => "input contains invalid characters"
  | tooShort => "premature end of input"
  | tooLong => "trailing input"

/-- What is wrong where something else was expected. -/
def unexpected (cs : List Char) : Fault := if cs.isEmpty then .tooShort else .invalidCharacter

/-- A number of at most `limit` digits that lies within bounds. -/
def takeWithin (low high limit : Nat) (cs : List Char) : Except Fault (Nat × List Char) :=
  match takeNumber? limit cs with
  | some (n, rest) => if low ≤ n ∧ n ≤ high then .ok (n, rest) else .error .outOfRange
  | none => .error (unexpected cs)

/-- A year: one to four digits, or a sign and any number of digits. -/
def takeYear : List Char → Except Fault (Int × List Char)
  | '-' :: rest => do
    let (n, rest) ← takeWithin 0 2147483648 rest.length rest
    return (-(n : Int), rest)
  | '+' :: rest => do
    let (n, rest) ← takeWithin 0 2147483647 rest.length rest
    return ((n : Int), rest)
  | cs => do
    let (n, rest) ← takeWithin 0 9999 4 cs
    return ((n : Int), rest)

def takeDash : List Char → Except Fault (List Char)
  | '-' :: rest => .ok rest
  | cs => .error (unexpected cs)

/-- Reads year, month and day divided by dashes. Blanks may stand in front of each number; where
`spaced` is set they may also stand in front of a dash and at the end. -/
def read (spaced : Bool) (cs : List Char) : Except Fault Date := do
  let gap := fun cs => if spaced then Text.trimStart cs else cs
  let (year, cs) ← takeYear (Text.trimStart cs)
  let cs ← takeDash (gap cs)
  let (month, cs) ← takeWithin 1 12 2 (Text.trimStart cs)
  let cs ← takeDash (gap cs)
  let (day, cs) ← takeWithin 1 31 2 (Text.trimStart cs)
  if !(gap cs).isEmpty then throw .tooLong
  match ofCivil? year month day with
  | some d => return d
  | none => throw .outOfRange

def read? (spaced : Bool) (cs : List Char) : Option Date := (read spaced cs).toOption

end Date

namespace Instant

/-- Hours, minutes and seconds of a time of day. -/
def clockText (timeOfDay : Int) : String :=
  let seconds := (timeOfDay / nanosPerSecond).toNat
  Text.padded 2 (seconds / 3600) ++ ":" ++ Text.padded 2 (seconds / 60 % 60) ++ ":" ++
    Text.padded 2 (seconds % 60)

def fraction (t : Instant) : Nat := (t.nanos % nanosPerSecond).toNat

def secondText (t : Instant) : String := t.date.text ++ "T" ++ clockText t.timeOfDay

/-- With nine fraction digits. -/
def text (t : Instant) : String := t.secondText ++ "." ++ Text.padded 9 t.fraction ++ "Z"

/-- With as few fraction digits as it takes. -/
def briefText (t : Instant) : String := t.secondText ++ fractionText t.fraction ++ "Z"

/-- With the offset from UTC in digits. -/
def offsetText (t : Instant) : String := t.secondText ++ fractionText t.fraction ++ "+00:00"

def takeColon? : List Char → Option (List Char)
  | ':' :: rest => some rest
  | _ => none

/-- Exactly two digits, below the bound. -/
def takePair? (bound : Nat) (cs : List Char) : Option (Nat × List Char) := do
  let (n, rest) ← Date.takeNumber? 2 cs
  if rest.length + 2 = cs.length ∧ n < bound then some (n, rest) else none

/-- The nanoseconds of up to nine fraction digits after a point. -/
def takeFraction? : List Char → Option (Nat × List Char)
  | '.' :: rest => do
    let (n, rest') ← Date.takeNumber? 9 rest
    return (n * Nat.pow 10 (9 - (rest.length - rest'.length)), rest'.dropWhile Char.isDigit)
  | cs => some (0, cs)

/-- Reads a date, `T`, a time of day with an optional fraction, and `Z`. -/
def ofText? (s : String) : Option Instant := do
  let dateChars := s.toList.takeWhile (· != 'T')
  let d ← Date.read? false dateChars
  if d.text.toList ≠ dateChars then none
  let cs := s.toList.drop (dateChars.length + 1)
  let (hour, cs) ← takePair? 24 cs
  let cs ← takeColon? cs
  let (minute, cs) ← takePair? 60 cs
  let cs ← takeColon? cs
  let (second, cs) ← takePair? 60 cs
  let (nanos, cs) ← takeFraction? cs
  if cs ≠ ['Z'] then none
  at? d (((hour * 60 + minute) * 60 + second : Nat) * nanosPerSecond + nanos)

end Instant

/-- Reads a date in the one form that printing gives. -/
def Date.ofText? (s : String) : Option Date := do
  let d ← Date.read? false s.toList
  if d.text = s then some d else none

end RecurringBilling
