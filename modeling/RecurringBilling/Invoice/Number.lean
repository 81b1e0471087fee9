import RecurringBilling.Calendar.Text
import RecurringBilling.Settings

/-!
Invoice numbers made from a pattern. In a format `#` stands for the series, `YY`, `MM` and `DD` for
the date, `N` for a random digit, `S` for a random letter and `A` for a random letter or digit.
-/

namespace RecurringBilling

/-- The outcomes of random draws, one for each position of a format. -/
abbrev Draws := Nat → Nat

structure NumberPattern where
  series : String
  format : String
  deriving DecidableEq

namespace NumberPattern

def ofSettings (s : BillingSettings) : NumberPattern := ⟨s.invoicePrefix, s.invoiceFormat⟩

instance : Inhabited NumberPattern := ⟨ofSettings {}⟩

def digitOf (n : Nat) : Char := Char.ofNat ('0'.toNat + n % 10)

def letterOf (n : Nat) : Char := Char.ofNat ('A'.toNat + n % 26)

/-- A letter or digit. Letters of both cases take part in the draw and count as upper case, so that
each letter comes up twice as often as each digit. -/
def letterOrDigitOf (n : Nat) : Char :=
  if n % 62 < 52 then letterOf (n % 62) else digitOf (n % 62 - 52)

def drawToken (draw : Nat) : Char → Char
  | 'N' => digitOf draw
  | 'S' => letterOf draw
  | 'A' => letterOrDigitOf draw
  | c => c

/-- Random tokens go first, so that letters of the series are never taken for them. -/
def drawTokens (draws : Draws) (format : List Char) : List Char :=
  format.mapIdx fun i c => drawToken (draws i) c

/-- Replaces each occurrence from left to right, after leaving out so many characters that belong
to the last one. -/
def replaceFrom (token replacement : List Char) : (skip : Nat) → List Char → List Char
  | _, [] => []
  | skip + 1, _ :: cs => replaceFrom token replacement skip cs
  | 0, c :: cs =>
    if token.isPrefixOf (c :: cs) then
      replacement ++ replaceFrom token replacement (token.length - 1) cs
    else c :: replaceFrom token replacement 0 cs

def replace (token replacement : String) (cs : List Char) : List Char :=
  replaceFrom token.toList replacement.toList 0 cs

def numberFor (p : NumberPattern) (date : Date) (draws : Draws) : String :=
  drawTokens draws p.format.toList
    |> replace "#" p.series
    |> replace "YY" date.shortYearText
    |> replace "MM" (Text.padded 2 date.month)
    |> replace "DD" (Text.padded 2 date.dayOfMonth)
    |> String.ofList

end NumberPattern

/-- Where invoice numbers come from: counted up from the next one, or made from a pattern, with a
supply of draws for each number to come. -/
inductive NumberSource where
  | counted (next : Nat)
  | pattern (pattern : NumberPattern) (supply : Nat → Draws)

/-- The number for an invoice issued on the date, and the source after it. -/
def NumberSource.take (source : NumberSource) (date : Date) : String × NumberSource :=
  match source with
  | counted next => ("SEQ-" ++ toString next, counted (next + 1))
  | pattern p supply => (p.numberFor date (supply 0), pattern p fun n => supply (n + 1))

end RecurringBilling
