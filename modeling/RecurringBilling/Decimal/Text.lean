import RecurringBilling.Decimal
import RecurringBilling.Text

/-!
Decimals as text. Printing keeps the scale; the shortest form drops trailing zeros. Reading takes a
sign, digits with at most one point, underscores after the first digit and an exponent. Fraction
digits that do not fit are rounded off at the first of them.
-/

namespace RecurringBilling.Decimal

/-- Digits of `units / 10 ^ scale` for a natural number of units. -/
def unsignedText (units scale : Nat) : String :=
  if scale = 0 then toString units
  else toString (units / pow10 scale) ++ "." ++ Text.padded scale (units % pow10 scale)

/-- The number with all the fraction digits of its scale. -/
def text (d : Decimal) : String :=
  (if d.units < 0 || d.isNegativeZero then "-" else "") ++ unsignedText d.units.natAbs d.scale

/-- The number without trailing fraction zeros. -/
def canonicalText (d : Decimal) : String := d.trim.text

def signed (negative : Bool) (units : Nat) : Int := if negative then -units else units

/-- Ends a number at the first fraction digit that does not fit: five and more round up. -/
def dropSurplus (negative : Bool) (units scale digit : Nat) : Option Decimal :=
  if digit < 5 then ofUnits? (signed negative units) scale
  else if units + 1 < unitBound then ofUnits? (signed negative (units + 1)) scale
  else if scale = 0 then none
  else ofUnits? (signed negative ((units + 5) / 10)) (scale - 1)

/-- What has been read of a number: its digits, how many of them follow the point, whether the
point has come and whether a digit or a separator has. -/
structure Reading where
  units : Nat := 0
  scale : Nat := 0
  pointed : Bool := false
  started : Bool := false

/-- Whether the units fitted in 64 bits with room for two more digits before the last one came. -/
def Reading.isShort (r : Reading) : Bool := r.units / 10 < 1844674407370954906

/-- Digits and separators, which may follow the digit that decides on the rounding. -/
def isSurplus (cs : List Char) : Bool := cs.all fun c => c.isDigit || c == '_'

/-- Reads on to the end of the text, or to the first fraction digit that does not fit. A separator
after the last place counts as a surplus zero in a short number and for nothing in a long one. -/
def readDigits (negative : Bool) (r : Reading) : List Char → Option Decimal
  | [] => if r.started then ofUnits? (signed negative r.units) r.scale else none
  | c :: rest =>
    match Text.digit? c with
    | some d =>
      if r.pointed && (r.scale == 28 || unitBound ≤ r.units * 10 + d) then
        if isSurplus rest then dropSurplus negative r.units r.scale d else none
      else if unitBound ≤ r.units * 10 + d then none
      else
        readDigits negative
          ⟨r.units * 10 + d, if r.pointed then r.scale + 1 else r.scale, r.pointed, true⟩ rest
    | none =>
      if c = '.' && !r.pointed then
        readDigits negative { r with pointed := true } rest
      else if c = '_' && r.started then
        if r.pointed && r.scale == 28 && r.isShort then
          if isSurplus rest then dropSurplus negative r.units r.scale 0 else none
        else readDigits negative r rest
      else none

def readPlain? : List Char → Option Decimal
  | '-' :: rest => readDigits true {} rest
  | '+' :: rest => readDigits false {} rest
  | cs => readDigits false {} cs

/-- Moves the point to the right. -/
def shiftUp? (d : Decimal) (places : Nat) : Option Decimal :=
  if places ≤ d.scale then ofUnits? d.units (d.scale - places)
  else if places ≤ 28 then ofUnits? (d.units * pow10 (places - d.scale)) 0
  else none

/-- Moves the point to the left. What would come after the last place is rounded off first, a half
away from zero, and a negative number that becomes zero so keeps its sign. -/
def shiftDown? (d : Decimal) (places : Nat) : Option Decimal :=
  if places ≤ 28 then
    let kept := d.roundTo (28 - places)
    (ofUnits? kept.units (kept.scale + places)).map (withZeroSign (d.units < 0))
  else none

def isExponentMark (c : Char) : Bool := c == 'e' || c == 'E'

def readScientific? (cs : List Char) : Option Decimal :=
  match cs.dropWhile (!isExponentMark ·) with
  | [] => none
  | _ :: exponent => do
    let base ← readPlain? (cs.takeWhile (!isExponentMark ·))
    match exponent with
    | '-' :: places => shiftDown? base (← Text.count? places)
    | places => shiftUp? base (← Text.count? places)

def ofText? (s : String) : Option Decimal :=
  readPlain? s.toList <|> readScientific? s.toList

end RecurringBilling.Decimal
