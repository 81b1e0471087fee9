import RecurringBilling.Decimal.Text

/-!
Binary numbers: magnitudes of 53 significant bits. Each operation takes the exact result to the
nearest of them, a tie going to the even mantissa, and refuses a result beyond the largest. The
digits of a number are the fewest that read back as it, and of those the nearest ones.
-/

namespace RecurringBilling

/-- The number `mantissa * 2 ^ exponent`. -/
structure Binary where
  mantissa : Nat
  exponent : Int
  deriving DecidableEq

namespace Binary

def lowestExponent : Int := -1074

def highestExponent : Int := 971

def zero : Binary := ⟨0, lowestExponent⟩

/-- The exact value is `numerator / denominator`. -/
def numerator (x : Binary) : Nat := x.mantissa <<< x.exponent.toNat

def denominator (x : Binary) : Nat := 1 <<< (-x.exponent).toNat

/-- The multiple of `2 ^ exponent` nearest to `num / den`. -/
def roundedAt (num den : Nat) (exponent : Int) : Binary :=
  ⟨(nearestEven (num <<< (-exponent).toNat : Nat) (den <<< exponent.toNat)).toNat, exponent⟩

/-- The number nearest to `num / den`: of the exponents from the lowest one that can be needed, the
first at which the mantissa has at most 53 bits. -/
def nearest? (num den : Nat) : Option Binary :=
  if num = 0 then some zero
  else
    let lowest := max lowestExponent (num.log2 - den.log2 - 53 : Int)
    let candidates := [lowest, lowest + 1, lowest + 2].map (roundedAt num den)
    candidates.find? fun x => x.mantissa < 9007199254740992 ∧ x.exponent ≤ highestExponent

def mul? (x y : Binary) : Option Binary :=
  nearest? (x.numerator * y.numerator) (x.denominator * y.denominator)

def div? (x y : Binary) : Option Binary :=
  nearest? (x.numerator * y.denominator) (x.denominator * y.numerator)

/-- The quotient by a power of ten, in steps of which each divides by a power that is a number. -/
def divPow10? (x : Binary) (places : Nat) : Option Binary :=
  if h : places ≤ 308 then (nearest? (Decimal.pow10 places) 1).bind x.div?
  else if x = zero then some zero
  else
    ((nearest? (Decimal.pow10 308) 1).bind x.div?).bind fun y => divPow10? y (places - 308)
termination_by places
decreasing_by omega

/-- The product with a power of ten. -/
def mulPow10? (x : Binary) (places : Nat) : Option Binary :=
  if places ≤ 308 then (nearest? (Decimal.pow10 places) 1).bind x.mul?
  else if x = zero then some zero
  else none

/-- The number `significand * 10 ^ power`, rounded at each step: first the significand, then its
product or quotient with a power of ten. -/
def ofScientific? (significand : Nat) : (power : Int) → Option Binary
  | .ofNat places => (nearest? significand 1).bind (mulPow10? · places)
  | .negSucc n => (nearest? significand 1).bind (divPow10? · (n + 1))

/-- The number of multiples of `10 ^ power` next to the value that reads back as it, of two the
nearer one, and the greater one of two that are equally near. -/
def multipleOf? (x : Binary) (power : Int) : Option Nat :=
  let up := Decimal.pow10 (-power).toNat
  let down := Decimal.pow10 power.toNat
  let num := x.numerator * up
  let den := x.denominator * down
  let below := num / den
  let candidates := if 2 * (num % den) < den then [below, below + 1] else [below + 1, below]
  candidates.find? fun n => nearest? (n * down) up = some x

/-- The fewest digits that read back as the number, as an integer and a power of ten: it is a
multiple of no higher power. -/
def digits (x : Binary) : Nat × Int :=
  if x = zero then (0, 0)
  else
    let top := (x.mantissa.log2 + x.exponent + 1) * 30103 / 100000 + 1
    let powers := (List.range 20).map fun (i : Nat) => top - i
    (powers.findSome? fun p => (x.multipleOf? p).map fun n => (n, p)).getD (0, 0)

/-- The digits around a point, without an exponent. -/
def text (x : Binary) : String :=
  match x.digits with
  | (n, .ofNat zeros) => toString (n * Decimal.pow10 zeros)
  | (n, .negSucc k) => Decimal.unsignedText n (k + 1)

end Binary

end RecurringBilling
