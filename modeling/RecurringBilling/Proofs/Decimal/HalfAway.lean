import Mathlib.Data.Rat.Floor
import RecurringBilling.Proofs.Decimal.Sums

/-! Rounding with halves away from zero, as an operation on numbers. A quotient that was first rounded
to a grid fine enough for its denominator is rounded as if it had not been. -/

namespace RecurringBilling

variable {num n : Int} {den steps : Nat}

theorem nearestAway_of_nonneg (hnum : 0 ≤ num) (hden : 0 < den) :
    nearestAway num den = (2 * num + den) / (2 * den) := by
  obtain ⟨m, rfl⟩ := Int.eq_ofNat_of_zero_le hnum
  rcases Nat.eq_zero_or_pos m with rfl | hpos
  · have hzero : (den : Int) / (2 * den) = 0 := Int.ediv_eq_zero_of_lt (by omega) (by omega)
    simp [nearestAway, hzero]
  · rw [nearestAway, Int.sign_eq_one_of_pos (by omega), Int.one_mul]
    rfl

theorem nearestAway_neg (num : Int) (den : Nat) : nearestAway (-num) den = -nearestAway num den := by
  rw [nearestAway, nearestAway, Int.sign_neg, Int.natAbs_neg, Int.neg_mul]

theorem nearestAway_eq_iff (hnum : 0 ≤ num) (hden : 0 < den) : nearestAway num den = n ↔
    den * (2 * n - 1) ≤ 2 * num ∧ 2 * num < den * (2 * n + 1) := by
  rw [nearestAway_of_nonneg hnum hden, Int.ediv_eq_iff_of_pos (by omega)]
  constructor <;> rintro ⟨hlow, hhigh⟩ <;> constructor <;> nlinarith

/-- No quotient below a half lies so close to it that rounding to the steps takes it there. -/
theorem nearestAway_nearestEven (hnum : 0 ≤ num) (hden : 0 < den) (hsteps : den < steps)
    (heven : 2 ∣ steps) : nearestAway (nearestEven (num * steps) den) steps = nearestAway num den := by
  obtain ⟨hlow, hhigh⟩ := (nearestAway_eq_iff hnum hden).mp rfl
  obtain ⟨hbelow, habove⟩ := nearestEven_bounds (num * steps) hden
  have hnonneg : 0 ≤ nearestEven (num * steps) den := by
    have hmono : nearestEven (0 * den) den ≤ nearestEven (num * steps) den :=
      nearestEven_mono hden hden (by rw [Int.zero_mul, Int.zero_mul]; positivity)
    rwa [nearestEven_mul 0 hden] at hmono
  generalize nearestAway num den = n at *
  generalize nearestEven (num * steps) den = units at *
  have hden' : (0 : Int) < den := by omega
  refine (nearestAway_eq_iff hnonneg (by omega)).mpr ⟨?_, ?_⟩
  · -- the half below is itself a whole number of steps
    obtain ⟨half, rfl⟩ := heven
    push_cast at *
    have hhalf : 2 * (half * (2 * n - 1)) ≤ 2 * units + 1 := by
      refine Int.le_of_mul_le_mul_left ?_ hden'
      calc (den : Int) * (2 * (half * (2 * n - 1))) = 2 * half * (den * (2 * n - 1)) := by ring
        _ ≤ 2 * half * (2 * num) := Int.mul_le_mul_of_nonneg_left hlow (by omega)
        _ = 2 * (num * (2 * half)) := by ring
        _ ≤ den * (2 * units + 1) := habove
    rw [Int.mul_assoc]
    omega
  · have hunits : 2 * units - 1 < steps * (2 * n + 1) - 1 := by
      refine Int.lt_of_mul_lt_mul_left ?_ hden'.le
      calc (den : Int) * (2 * units - 1) ≤ steps * (2 * num) := by linarith
        _ ≤ steps * (den * (2 * n + 1) - 1) := Int.mul_le_mul_of_nonneg_left (by omega) (by omega)
        _ < den * (steps * (2 * n + 1) - 1) := by
          have hlt : (den : Int) < steps := by omega
          linarith
    omega

/-- The integer nearest to a number, the one farther from zero of two that are equally near. -/
def roundAway (q : ℚ) : ℤ := if 0 ≤ q then ⌊q + 1 / 2⌋ else ⌈q - 1 / 2⌉

theorem roundAway_intCast (n : ℤ) : roundAway n = n := by
  unfold roundAway
  split
  · exact Int.floor_eq_iff.mpr ⟨by linarith, by linarith⟩
  · exact Int.ceil_eq_iff.mpr ⟨by linarith, by linarith⟩

theorem roundAway_mono {q q' : ℚ} (h : q ≤ q') : roundAway q ≤ roundAway q' := by
  unfold roundAway
  split_ifs with hq hq'
  · gcongr
  · linarith
  · have hlow : ⌈q - 1 / 2⌉ ≤ 0 := Int.ceil_le.mpr (by push_cast; linarith)
    have hhigh : 0 ≤ ⌊q' + 1 / 2⌋ := Int.floor_nonneg.mpr (by linarith)
    exact hlow.trans hhigh
  · gcongr

theorem nearestAway_eq_roundAway (num : Int) (hden : 0 < den) :
    nearestAway num den = roundAway (num / den) := by
  have hden' : (0 : ℚ) < den := by exact_mod_cast hden
  have hsign : (0 : ℚ) ≤ num / den ↔ 0 ≤ num := by
    rw [le_div_iff₀ hden', zero_mul, Int.cast_nonneg_iff]
  unfold roundAway
  split_ifs with h
  · have hhalf : (num / den + 1 / 2 : ℚ) = (2 * num + den : Int) / (2 * den : Nat) := by
      push_cast
      field_simp
    rw [hhalf, Rat.floor_intCast_div_natCast, nearestAway_of_nonneg (hsign.mp h) hden]
    rfl
  · have hneg : 0 ≤ -num := by
      have := mt hsign.mpr h
      omega
    have hhalf : (num / den - 1 / 2 : ℚ) = (2 * num - den : Int) / (2 * den : Nat) := by
      push_cast
      field_simp
    rw [hhalf, Rat.ceil_intCast_div_natCast, ← neg_neg num, nearestAway_neg,
      nearestAway_of_nonneg hneg hden, neg_neg]
    congr 2
    ring

namespace Decimal

variable {q q' : ℚ}

/-- A number rounded to so many places, a half going away from zero. -/
def halfAway (places : Nat) (q : ℚ) : ℚ := roundAway (q * 10 ^ places) / 10 ^ places

theorem halfAway_mono (h : q ≤ q') (places : Nat) : halfAway places q ≤ halfAway places q' := by
  have hscaled : q * 10 ^ places ≤ q' * 10 ^ places := by gcongr
  have hround : (roundAway (q * 10 ^ places) : ℚ) ≤ roundAway (q' * 10 ^ places) := by
    exact_mod_cast roundAway_mono hscaled
  unfold halfAway
  gcongr

/-- A decimal is rounded as the number that it stands for, in whatever form it is written. -/
theorem toRat_roundTo_eq_halfAway (d : Decimal) (places : Nat) :
    (d.roundTo places).toRat = halfAway places d.toRat := by
  unfold roundTo halfAway
  split
  · rename_i hscale
    obtain ⟨more, rfl⟩ := Nat.exists_eq_add_of_le hscale
    have hwhole : d.toRat * 10 ^ (d.scale + more) = (d.units * pow10 more : Int) := by
      simp only [toRat, pow10, Nat.pow_eq]
      push_cast
      field_simp
      ring
    rw [hwhole, roundAway_intCast, ← hwhole, mul_div_cancel_right₀ _ (by positivity)]
  · rename_i hscale
    have hscaled : d.toRat * 10 ^ places = d.units / pow10 (d.scale - places) := by
      have hsplit : (10 : ℚ) ^ d.scale = 10 ^ places * 10 ^ (d.scale - places) := by
        rw [← pow_add, Nat.add_sub_cancel' (by omega)]
      simp only [toRat, pow10, Nat.pow_eq, hsplit]
      push_cast
      field_simp
    rw [hscaled, ← nearestAway_eq_roundAway _ (pow10_pos _)]
    rfl

theorem scale_roundTo_le (d : Decimal) (places : Nat) : (d.roundTo places).scale ≤ places := by
  unfold roundTo
  split
  · assumption
  · exact Nat.le_refl places

end Decimal

end RecurringBilling
