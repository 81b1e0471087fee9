/-!
Decimal numbers of 96 bits with at most 28 fraction digits. Each operation takes the exact result
to the nearest number at the largest scale that still fits, a tie going to the even neighbour, and
refuses a result that fits at no scale.
-/

namespace RecurringBilling

/-- What stops an operation whose exact result has no representation. -/
inductive ArithmeticFault where
  | addition
  | subtraction
  | multiplication
  | division
  | divisionByZero
  | instantAddition
  deriving DecidableEq, Repr

def ArithmeticFault.message : ArithmeticFault → String
  | .addition => "Addition overflowed"
  | .subtraction => "Subtraction overflowed"
  | .multiplication => "Multiplication overflowed"
  | .division => "Division overflowed"
  | .divisionByZero => "Division by zero"
  | .instantAddition => "`DateTime + TimeDelta` overflowed"

/-- The magnitude of the units takes 96 bits. -/
def Decimal.unitBound : Nat := Nat.pow 2 96

/-- The number `units / 10 ^ scale`. Trailing zeros count: `1.5` and `1.50` are two values of this
type that compare as equal numbers. Zero may have a minus sign, which shows only when it is
written. -/
structure Decimal where
  units : Int
  scale : Nat
  units_lt : units.natAbs < Decimal.unitBound
  scale_le : scale ≤ 28
  isNegativeZero : Bool := false
  units_eq_zero : isNegativeZero = true → units = 0 := by nofun
  deriving DecidableEq

/-- The integer nearest to `num / den`, the even one of two that are equally near. -/
def nearestEven (num : Int) (den : Nat) : Int :=
  let below := num / den
  let twice := 2 * (num % den)
  if twice < den then below
  else if (den : Int) < twice then below + 1
  else if below % 2 = 0 then below
  else below + 1

/-- The integer nearest to `num / den`, the one farther from zero of two that are equally near. -/
def nearestAway (num : Int) (den : Nat) : Int :=
  num.sign * ((2 * num.natAbs + den) / (2 * den) : Nat)

theorem natAbs_nearestAway_le (num : Int) {den : Nat} (h : 0 < den) :
    (nearestAway num den).natAbs ≤ num.natAbs := by
  unfold nearestAway
  rw [Int.natAbs_mul, Int.natAbs_natCast]
  have hs : num.sign.natAbs ≤ 1 := by
    rcases Int.lt_trichotomy num 0 with hn | hn | hn
    · simp [Int.sign_eq_neg_one_of_neg hn]
    · simp [hn]
    · simp [Int.sign_eq_one_of_pos hn]
  have hq : (2 * num.natAbs + den) / (2 * den) ≤ num.natAbs := by
    apply Nat.le_of_lt_succ
    rw [Nat.div_lt_iff_lt_mul (by omega), Nat.succ_mul num.natAbs]
    have hm : num.natAbs * 2 ≤ num.natAbs * (2 * den) := Nat.mul_le_mul_left _ (by omega)
    omega
  calc num.sign.natAbs * ((2 * num.natAbs + den) / (2 * den))
      ≤ 1 * ((2 * num.natAbs + den) / (2 * den)) := Nat.mul_le_mul_right _ hs
    _ ≤ num.natAbs := by simpa using hq

namespace Decimal

def pow10 (n : Nat) : Nat := Nat.pow 10 n

theorem pow10_pos (n : Nat) : 0 < pow10 n := Nat.pow_pos (by decide)

def ofUnits? (units : Int) (scale : Nat) : Option Decimal :=
  if h : units.natAbs < unitBound ∧ scale ≤ 28 then
    some { units := units, scale := scale, units_lt := h.1, scale_le := h.2 }
  else none

/-- The number nearest to `num / den` at the largest scale up to `scale` at which it fits. -/
def nearest? (num : Int) (den : Nat) : (scale : Nat) → Option Decimal
  | 0 => ofUnits? (nearestEven num den) 0
  | scale + 1 =>
    match ofUnits? (nearestEven (num * pow10 (scale + 1)) den) (scale + 1) with
    | some d => some d
    | none => nearest? num den scale

/-- A natural number that fits. -/
def whole (n : Nat) (h : n < unitBound) : Decimal :=
  { units := n, scale := 0, units_lt := h, scale_le := by decide }

instance : OfNat Decimal 0 := ⟨whole 0 (by decide)⟩
instance : OfNat Decimal 1 := ⟨whole 1 (by decide)⟩

instance : Inhabited Decimal := ⟨0⟩

def hundred : Decimal := whole 100 (by decide)

/-- Decimals are ordered as numbers, whatever their scales. -/
instance : LE Decimal := ⟨fun a b => a.units * pow10 b.scale ≤ b.units * pow10 a.scale⟩

instance : LT Decimal := ⟨fun a b => a.units * pow10 b.scale < b.units * pow10 a.scale⟩

instance (a b : Decimal) : Decidable (a ≤ b) :=
  inferInstanceAs (Decidable (a.units * pow10 b.scale ≤ b.units * pow10 a.scale))

instance (a b : Decimal) : Decidable (a < b) :=
  inferInstanceAs (Decidable (a.units * pow10 b.scale < b.units * pow10 a.scale))

/-- Equality of numbers: `1.5` and `1.50` are the same. -/
def Same (a b : Decimal) : Prop := a.units * pow10 b.scale = b.units * pow10 a.scale

instance (a b : Decimal) : Decidable (Same a b) :=
  inferInstanceAs (Decidable (_ = _))

instance : Max Decimal := ⟨fun a b => if a < b then b else a⟩

def orFault (fault : ArithmeticFault) : Option Decimal → Except ArithmeticFault Decimal
  | some d => .ok d
  | none => .error fault

def add (a b : Decimal) : Except ArithmeticFault Decimal :=
  orFault .addition <| nearest? (a.units * pow10 b.scale + b.units * pow10 a.scale)
    (pow10 (a.scale + b.scale)) (max a.scale b.scale)

def sub (a b : Decimal) : Except ArithmeticFault Decimal :=
  orFault .subtraction <| nearest? (a.units * pow10 b.scale - b.units * pow10 a.scale)
    (pow10 (a.scale + b.scale)) (max a.scale b.scale)

def mul (a b : Decimal) : Except ArithmeticFault Decimal :=
  orFault .multiplication <| nearest? (a.units * b.units)
    (pow10 (a.scale + b.scale)) (min (a.scale + b.scale) 28)

def div (a b : Decimal) : Except ArithmeticFault Decimal :=
  if b.units = 0 then .error .divisionByZero
  else orFault .division <| nearest? (b.units.sign * a.units * pow10 b.scale)
    (b.units.natAbs * pow10 a.scale) 28

/-- An integer that fits becomes the decimal of scale zero. -/
def ofInt? (n : Int) : Option Decimal := ofUnits? n 0

/-- At most `places` fraction digits, a half going away from zero. -/
def roundTo (places : Nat) (d : Decimal) : Decimal :=
  if h : d.scale ≤ places then d
  else
    { units := nearestAway d.units (pow10 (d.scale - places))
      scale := places
      units_lt := Nat.lt_of_le_of_lt (natAbs_nearestAway_le _ (pow10_pos _)) d.units_lt
      scale_le := Nat.le_trans (Nat.le_of_not_le h) d.scale_le }

/-- The number with a minus sign if it is zero and the sign is asked for. -/
def withZeroSign (negative : Bool) (d : Decimal) : Decimal :=
  { d with
    isNegativeZero := negative && d.units == 0
    units_eq_zero := by simp }

/-- The sum from left to right, starting at zero. -/
def sum (ds : List Decimal) : Except ArithmeticFault Decimal :=
  ds.foldlM add 0

/-- The shortest form: no zeros at the end of the fraction, and zero without a sign. -/
def trim (d : Decimal) : Decimal :=
  go d.units d.scale d.units_lt d.scale_le
where
  go (units : Int) : (scale : Nat) → units.natAbs < unitBound → scale ≤ 28 → Decimal
    | 0, hu, hs => { units := units, scale := 0, units_lt := hu, scale_le := hs }
    | scale + 1, hu, hs =>
      if units % 10 = 0 then
        go (units / 10) scale (by omega) (by omega)
      else { units := units, scale := scale + 1, units_lt := hu, scale_le := hs }

end Decimal

end RecurringBilling
