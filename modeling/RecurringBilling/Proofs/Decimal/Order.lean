import Mathlib.Algebra.Order.Field.Basic
import Mathlib.Algebra.Order.Field.Rat
import Mathlib.Tactic.Positivity
import RecurringBilling.Decimal

/-! Decimals compare as the rational numbers that they stand for. -/

namespace RecurringBilling.Decimal

/-- The number that a decimal stands for. -/
def toRat (d : Decimal) : ℚ := d.units / 10 ^ d.scale

theorem le_iff_toRat_le {a b : Decimal} : a ≤ b ↔ a.toRat ≤ b.toRat := by
  unfold toRat
  rw [div_le_div_iff₀ (by positivity) (by positivity)]
  change a.units * (pow10 b.scale : ℤ) ≤ b.units * (pow10 a.scale : ℤ) ↔ _
  rw [← Int.cast_le (R := ℚ)]
  simp [pow10]

theorem lt_iff_toRat_lt {a b : Decimal} : a < b ↔ a.toRat < b.toRat := by
  unfold toRat
  rw [div_lt_div_iff₀ (by positivity) (by positivity)]
  change a.units * (pow10 b.scale : ℤ) < b.units * (pow10 a.scale : ℤ) ↔ _
  rw [← Int.cast_lt (R := ℚ)]
  simp [pow10]

protected theorem not_lt {a b : Decimal} : ¬ a < b ↔ b ≤ a := by
  rw [lt_iff_toRat_lt, le_iff_toRat_le, not_lt]

protected theorem not_le {a b : Decimal} : ¬ a ≤ b ↔ b < a := by
  rw [lt_iff_toRat_lt, le_iff_toRat_le, not_le]

protected theorem le_of_lt {a b : Decimal} (h : a < b) : a ≤ b :=
  le_iff_toRat_le.mpr (lt_iff_toRat_lt.mp h).le

end RecurringBilling.Decimal
