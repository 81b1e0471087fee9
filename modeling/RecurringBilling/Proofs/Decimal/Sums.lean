import Mathlib.Algebra.BigOperators.Group.List.Basic
import Mathlib.Tactic.FieldSimp
import RecurringBilling.Proofs.Decimal.Rounding
import RecurringBilling.Proofs.Results
import RecurringBilling.Reports

/-! Sums and shares of decimals. A sum is exact if none of the sums on the way to it needs more room
than there is, and what is divided by a whole number always has a quotient. -/

namespace RecurringBilling

theorem nearestAway_mul (n : Int) {den : Nat} (hden : 0 < den) :
    nearestAway (n * den) den = n := by
  have hquotient : (2 * (n.natAbs * den) + den) / (2 * den) = n.natAbs := by
    rw [Nat.div_eq_of_lt_le] <;> nlinarith
  have hsign : (n * den).sign = n.sign := by
    rw [Int.sign_mul, Int.sign_eq_one_of_pos (show (0 : Int) < den by omega), Int.mul_one]
  rw [nearestAway, hsign, Int.natAbs_mul, Int.natAbs_natCast, hquotient, Int.sign_mul_natAbs]

theorem nearestAway_nonneg {num : Int} (h : 0 ≤ num) (den : Nat) : 0 ≤ nearestAway num den :=
  Int.mul_nonneg (Int.sign_nonneg_iff.mpr h) (Int.natCast_nonneg _)

/-- What is no greater than a whole number is not rounded beyond it. -/
theorem nearestAway_le {num : Int} {n den : Nat} (hden : 0 < den) (hnum : 0 ≤ num)
    (h : num ≤ n * den) : nearestAway num den ≤ n := by
  obtain ⟨m, rfl⟩ := Int.eq_ofNat_of_zero_le hnum
  have hm : m ≤ n * den := by exact_mod_cast h
  have hquotient : (2 * m + den) / (2 * den) ≤ n :=
    Nat.le_of_lt_succ ((Nat.div_lt_iff_lt_mul (by omega)).mpr (by nlinarith))
  rcases Nat.eq_zero_or_pos m with rfl | hpos
  · simp [nearestAway]
  · rw [nearestAway, Int.sign_eq_one_of_pos (by omega), Int.one_mul]
    exact_mod_cast hquotient

namespace Decimal

variable {num : Int} {den : Nat} {ds : List Decimal} {d : Decimal}

/-- Whether all sums on the way, from left to right, are decimals. -/
def SumsExactly (ds : List Decimal) : Prop := ∀ n, Representable ((ds.take n).map toRat).sum

theorem foldlM_add_exact (ds : List Decimal) (start : Decimal)
    (h : ∀ n, Representable (start.toRat + ((ds.take n).map toRat).sum)) :
    ∃ total, ds.foldlM add start = .ok total ∧
      total.toRat = start.toRat + (ds.map toRat).sum := by
  induction ds generalizing start with
  | nil => exact ⟨start, rfl, by simp⟩
  | cons d rest ih =>
    obtain ⟨next, hnext, hrat⟩ := add_exact (a := start) (b := d) (by simpa using h 1)
    obtain ⟨total, htotal, hsum⟩ := ih next fun n => by
      have hlater := h (n + 1)
      rwa [List.take_succ_cons, List.map_cons, List.sum_cons, ← add_assoc, ← hrat] at hlater
    refine ⟨total, ?_, ?_⟩
    · rw [List.foldlM_cons, hnext]
      exact htotal
    · rw [hsum, hrat, List.map_cons, List.sum_cons, add_assoc]

theorem SumsExactly.sum (h : SumsExactly ds) :
    ∃ total, Decimal.sum ds = .ok total ∧ total.toRat = (ds.map toRat).sum := by
  obtain ⟨total, htotal, hsum⟩ := foldlM_add_exact ds 0 fun n => by
    rw [toRat_zero, zero_add]
    exact h n
  exact ⟨total, htotal, by rw [hsum, toRat_zero, zero_add]⟩

theorem sumsExactly_nil : SumsExactly [] := fun _ => ⟨0, by simp [toRat_zero]⟩

theorem sumsExactly_singleton (d : Decimal) : SumsExactly [d]
  | 0 => ⟨0, by simp [toRat_zero]⟩
  | _ + 1 => ⟨d, by simp⟩

/-- A number that has no more than so many places is not rounded. -/
theorem toRat_roundTo {places : Nat} {n : Int} (h : d.toRat * 10 ^ places = n) :
    (d.roundTo places).toRat = d.toRat := by
  unfold roundTo
  split
  · rfl
  · rename_i hscale
    obtain ⟨more, hmore⟩ := Nat.exists_eq_add_of_lt (Nat.lt_of_not_le hscale)
    have hunits : d.units = n * pow10 (d.scale - places) := by
      have hrat : (d.units : ℚ) = n * 10 ^ (d.scale - places) := by
        have hsplit : (10 : ℚ) ^ d.scale = 10 ^ places * 10 ^ (d.scale - places) := by
          rw [← pow_add, Nat.add_sub_cancel' (by omega)]
        rw [← h, toRat, hsplit]
        field_simp
      simp only [pow10, Nat.pow_eq]
      exact_mod_cast hrat
    have hrounded : nearestAway d.units (pow10 (d.scale - places)) = n := by
      rw [hunits, nearestAway_mul n (pow10_pos _)]
    change (nearestAway d.units (pow10 (d.scale - places)) : ℚ) / 10 ^ places = d.toRat
    rw [hrounded, ← h]
    field_simp

theorem pow10_add (m n : Nat) : pow10 (m + n) = pow10 m * pow10 n := Nat.pow_add 10 m n

/-- Rounding does not lead out of the bounds of a number, if these are whole numbers. -/
theorem roundTo_mem {n : Nat} (places : Nat) (hlow : 0 ≤ d.toRat) (hhigh : d.toRat ≤ n) :
    0 ≤ (d.roundTo places).toRat ∧ (d.roundTo places).toRat ≤ n := by
  unfold roundTo
  split
  · exact ⟨hlow, hhigh⟩
  · rename_i hscale
    rw [toRat, le_div_iff₀ (by positivity), zero_mul] at hlow
    rw [toRat, div_le_iff₀ (by positivity)] at hhigh
    have hunits : 0 ≤ d.units := by exact_mod_cast hlow
    have hunits' : d.units ≤ (n * pow10 places : Nat) * pow10 (d.scale - places) := by
      have hcast : d.units ≤ n * pow10 d.scale := by
        simp only [pow10, Nat.pow_eq]
        exact_mod_cast hhigh
      rw [← Nat.add_sub_cancel' (Nat.le_of_not_le hscale), pow10_add] at hcast
      push_cast at hcast ⊢
      linarith
    have hrounded := nearestAway_nonneg hunits (pow10 (d.scale - places))
    have hrounded' := nearestAway_le (pow10_pos (d.scale - places)) hunits hunits'
    refine ⟨?_, ?_⟩
    · rw [toRat, le_div_iff₀ (by positivity), zero_mul]
      exact_mod_cast hrounded
    · rw [toRat, div_le_iff₀ (by positivity)]
      exact_mod_cast hrounded'

/-- What is no greater than the greatest integer that fits has a nearest decimal. -/
theorem nearest?_isSome (hden : 0 < den) (h : num.natAbs ≤ (unitBound - 1) * den) {scale : Nat}
    (hscale : scale ≤ 28) : ∃ d, nearest? num den scale = some d := by
  induction scale with
  | zero =>
    have hbound : ((unitBound - 1 : Nat) : Int) + 1 = unitBound := by decide
    have hnum : (num.natAbs : Int) ≤ (unitBound - 1 : Nat) * den := by exact_mod_cast h
    have hupper : nearestEven num den ≤ (unitBound - 1 : Nat) := by
      rw [← nearestEven_mul ((unitBound - 1 : Nat) : Int) hden]
      exact nearestEven_mono hden hden (Int.mul_le_mul_of_nonneg_right (by omega) (by omega))
    have hlower : -((unitBound - 1 : Nat) : Int) ≤ nearestEven num den := by
      rw [← nearestEven_mul (-((unitBound - 1 : Nat) : Int)) hden, Int.neg_mul]
      exact nearestEven_mono hden hden (Int.mul_le_mul_of_nonneg_right (by omega) (by omega))
    exact ⟨_, dif_pos ⟨by omega, by decide⟩⟩
  | succ scale ih =>
    rw [nearest?]
    split
    · exact ⟨_, rfl⟩
    · exact ih (by omega)

theorem ofInt?_of_lt {n : Int} (h : n.natAbs < unitBound) :
    ∃ d, ofInt? n = some d ∧ d.units = n ∧ d.scale = 0 := by
  refine ⟨_, dif_pos ⟨h, by decide⟩, rfl, rfl⟩

/-- Division by a whole number does not overflow. -/
theorem div_isOk (a : Decimal) {b : Decimal} (hunits : b.units ≠ 0) (hscale : b.scale = 0) :
    ∃ q, a.div b = .ok q := by
  have hden : 0 < b.units.natAbs * pow10 a.scale :=
    Nat.mul_pos (Int.natAbs_pos.mpr hunits) (pow10_pos _)
  have hnum : (b.units.sign * a.units * pow10 b.scale).natAbs ≤
      (unitBound - 1) * (b.units.natAbs * pow10 a.scale) := by
    have hsign : b.units.sign.natAbs = 1 := Int.natAbs_sign_of_ne_zero hunits
    have hunits' := a.units_lt
    rw [hscale, Int.natAbs_mul, Int.natAbs_mul, hsign]
    calc 1 * a.units.natAbs * (pow10 0 : Int).natAbs = a.units.natAbs := by simp [pow10]
      _ ≤ unitBound - 1 := by omega
      _ ≤ (unitBound - 1) * (b.units.natAbs * pow10 a.scale) := Nat.le_mul_of_pos_right _ hden
  obtain ⟨q, hq⟩ := nearest?_isSome hden hnum (Nat.le_refl 28)
  exact ⟨q, by rw [div, if_neg hunits, hq]; rfl⟩

theorem mul_hundred_isOk {n : Int} (h : 100 * n.natAbs < unitBound) (hd : d.units = n)
    (hscale : d.scale = 0) : ∃ product, d.mul hundred = .ok product := by
  have hnum : (d.units * hundred.units).natAbs ≤ (unitBound - 1) * pow10 (0 + 0) := by
    have hhundred : hundred.units = 100 := rfl
    have hpow : pow10 (0 + 0) = 1 := rfl
    rw [hd, hhundred, hpow, Int.natAbs_mul, Nat.mul_one, Nat.mul_comm]
    exact Nat.le_sub_one_of_lt h
  obtain ⟨product, hproduct⟩ :=
    nearest?_isSome (pow10_pos _) hnum (show min (0 + 0) 28 ≤ 28 by decide)
  refine ⟨product, ?_⟩
  have hzero : hundred.scale = 0 := rfl
  rw [mul, hscale, hzero, hproduct]
  rfl

theorem toRat_hundred : hundred.toRat = (100 : Nat) := by simp [toRat, hundred, whole]

theorem mul_hundred_units {product : Decimal} (hscale : d.scale = 0)
    (h : d.mul hundred = .ok product) : product.units = 100 * d.units ∧ product.scale = 0 := by
  have hzero : hundred.scale = 0 := rfl
  rw [mul, hscale, hzero, orFault_eq_ok] at h
  obtain ⟨hle, hunits, _⟩ := nearest?_eq_some (by decide) h
  have hproduct : product.scale = 0 := Nat.le_zero.mp hle
  refine ⟨?_, hproduct⟩
  rw [hunits, hproduct, unitsAt, show ((pow10 0 : Nat) : Int) = (pow10 (0 + 0) : Nat) from rfl,
    nearestEven_mul _ (pow10_pos _), Int.mul_comm]
  rfl

/-- A whole number is the decimal nearest to it. -/
theorem nearest?_whole {n : Nat} (h : n < unitBound) :
    ∃ fit, nearest? n 1 28 = some fit ∧ fit.toRat = n := by
  obtain ⟨fit, hfit, hrat⟩ := nearest?_exact (d := whole n h) Nat.one_pos
    (show (n : Int) * pow10 28 = (n * pow10 28 : Nat) * (1 : Nat) by push_cast; ring) (Nat.le_refl 28)
    (show (n : Int) * pow10 0 = n * (1 : Nat) by simp [pow10])
  exact ⟨fit, hfit, by rw [hrat]; simp [toRat, whole]⟩

/-- A quotient of whole numbers is not rounded beyond a whole number that it does not exceed. -/
theorem div_mem {a b q : Decimal} {n : Nat} (hn : n < unitBound) (hlow : 0 ≤ a.units)
    (hhigh : a.units ≤ n * b.units) (hpos : 0 < b.units) (ha : a.scale = 0) (hb : b.scale = 0)
    (h : a.div b = .ok q) : 0 ≤ q.toRat ∧ q.toRat ≤ n := by
  have hden : 0 < b.units.natAbs := by omega
  rw [div, if_neg (by omega), orFault_eq_ok, Int.sign_eq_one_of_pos hpos, Int.one_mul, ha, hb] at h
  obtain ⟨zero, hzero, hzero'⟩ := nearest?_whole (n := 0) (by decide)
  obtain ⟨bound, hbound, hbound'⟩ := nearest?_whole hn
  have hden : 0 < b.units.natAbs * pow10 0 := Nat.mul_pos hden (pow10_pos 0)
  have hnum : (b.units.natAbs * pow10 0 : Nat) = b.units := by
    simp only [pow10, Nat.pow_eq, Nat.pow_zero, Nat.mul_one]
    omega
  have hpow : (pow10 0 : Int) = 1 := rfl
  rw [← hbound', ← le_iff_toRat_le, show (0 : ℚ) = zero.toRat by simp [hzero'], ← le_iff_toRat_le]
  exact ⟨nearest?_mono Nat.one_pos hden (by rw [hpow]; simpa using hlow) (Nat.le_refl 28) hzero h,
    nearest?_mono hden Nat.one_pos (by rw [hnum, hpow]; simpa using hhigh) (Nat.le_refl 28) h hbound⟩

end Decimal

namespace Reports

open Decimal

theorem ratio_isOk (value : Decimal) {count : Int} (h : count.natAbs < unitBound) :
    ∃ d, ratio value count = .ok d := by
  unfold ratio
  split
  · exact ⟨0, rfl⟩
  · rename_i hcount
    obtain ⟨divisor, hdivisor, hunits, hscale⟩ := ofInt?_of_lt h
    obtain ⟨q, hq⟩ := div_isOk value (hunits ▸ hcount) hscale
    rw [hdivisor]
    exact ⟨round2 q, by simp [orFault, hq, Except.bind, Except.pure, bind, pure]⟩

theorem percentage_isOk {part whole : Int} (hpart : 100 * part.natAbs < unitBound)
    (hwhole : whole.natAbs < unitBound) : ∃ d, percentage part whole = .ok d := by
  unfold percentage
  split
  · exact ⟨0, rfl⟩
  · rename_i hzero
    obtain ⟨p, hp, hunits, hscale⟩ := ofInt?_of_lt (n := part) (by omega)
    obtain ⟨w, hw, hunits', hscale'⟩ := ofInt?_of_lt hwhole
    obtain ⟨product, hproduct⟩ := mul_hundred_isOk hpart hunits hscale
    obtain ⟨q, hq⟩ := div_isOk product (hunits' ▸ hzero) hscale'
    rw [hp, hw]
    exact ⟨round2 q, by simp [orFault, hproduct, hq, Except.bind, Except.pure, bind, pure]⟩

/-- A percentage of something is a quotient of whole numbers that is rounded to two places. -/
theorem percentage_eq_ok {part whole : Int} {d : Decimal} (hwhole : whole ≠ 0)
    (h : percentage part whole = .ok d) :
    ∃ product divisor q : Decimal, (product.units = 100 * part ∧ product.scale = 0) ∧
      (divisor.units = whole ∧ divisor.scale = 0) ∧ product.div divisor = .ok q ∧
      round2 q = d := by
  rw [percentage, if_neg hwhole] at h
  obtain ⟨p, hp, h⟩ := bind_eq_ok.mp h
  obtain ⟨divisor, hdivisor, h⟩ := bind_eq_ok.mp h
  obtain ⟨product, hproduct, h⟩ := bind_eq_ok.mp h
  obtain ⟨q, hq, h⟩ := bind_eq_ok.mp h
  obtain ⟨hunits, hscale⟩ := ofUnits?_eq_some (orFault_eq_ok.mp hp)
  exact ⟨product, divisor, q, hunits ▸ mul_hundred_units hscale hproduct,
    ofUnits?_eq_some (orFault_eq_ok.mp hdivisor), hq, Except.ok.inj h⟩

/-- A part of a whole is between none and a hundred percent of it. -/
theorem percentage_mem {part whole : Int} {d : Decimal} (hpart : 0 ≤ part) (hle : part ≤ whole)
    (h : percentage part whole = .ok d) : 0 ≤ d ∧ d ≤ hundred := by
  by_cases hzero : whole = 0
  · rw [percentage, if_pos hzero] at h
    obtain rfl : 0 = d := Except.ok.inj h
    decide
  · obtain ⟨product, divisor, q, ⟨hproduct, hscale⟩, ⟨hdivisor, hscale'⟩, hq, rfl⟩ :=
      percentage_eq_ok hzero h
    have hquotient := div_mem (n := 100) (by decide) (by omega) (by push_cast; omega) (by omega)
      hscale hscale' hq
    rw [le_iff_toRat_le, le_iff_toRat_le, toRat_zero, toRat_hundred]
    exact roundTo_mem 2 hquotient.1 hquotient.2

end Reports

end RecurringBilling
