import Mathlib.Tactic.Linarith
import Mathlib.Tactic.LinearCombination
import Mathlib.Tactic.Ring
import RecurringBilling.Proofs.Decimal.Order

/-! The decimal that is nearest to a quotient. It depends on the quotient alone, it is the quotient
itself wherever that is a decimal, and it grows with the quotient, although the greater of two
quotients may have to do with fewer places. -/

namespace RecurringBilling

variable {num num' : Int} {den den' : Nat}

theorem nearestEven_bounds (num : Int) (hden : 0 < den) :
    den * (2 * nearestEven num den - 1) ≤ 2 * num ∧
      2 * num ≤ den * (2 * nearestEven num den + 1) := by
  have hdiv : den * (num / den) + num % den = num := Int.mul_ediv_add_emod num den
  have hnonneg : 0 ≤ num % den := Int.emod_nonneg _ (by omega)
  have hlt : num % den < den := Int.emod_lt_of_pos _ (by omega)
  dsimp only [nearestEven]
  constructor <;> split_ifs <;> linarith

theorem nearestEven_mul (n : Int) (hden : 0 < den) : nearestEven (n * den) den = n := by
  have hden' : (den : Int) ≠ 0 := by omega
  simp [nearestEven, Int.mul_ediv_cancel _ hden', hden]

theorem nearestEven_congr (hden : 0 < den) (hden' : 0 < den') (h : num * den' = num' * den) :
    nearestEven num den = nearestEven num' den' := by
  have hfloor : num / den = num' / den' := by
    rw [← Int.mul_ediv_mul_of_pos_left num den (show (0 : Int) < den' by omega), h,
      Int.mul_comm (den : Int), Int.mul_ediv_mul_of_pos_left num' den' (by omega)]
  have hrest : num % den * den' = num' % den' * den := by
    have hnum := Int.mul_ediv_add_emod num den
    have hnum' := Int.mul_ediv_add_emod num' den'
    rw [hfloor] at hnum
    linear_combination h + den' * hnum - den * hnum'
  have hlt : 2 * (num % den) < den ↔ 2 * (num' % den') < den' := by
    rw [← Int.mul_lt_mul_right (show (0 : Int) < den' by omega), Int.mul_assoc, hrest,
      Int.mul_comm (den : Int), ← Int.mul_assoc, Int.mul_lt_mul_right (by omega)]
  have hgt : (den : Int) < 2 * (num % den) ↔ (den' : Int) < 2 * (num' % den') := by
    rw [← Int.mul_lt_mul_right (show (0 : Int) < den' by omega), Int.mul_assoc 2, hrest,
      Int.mul_comm (den : Int), ← Int.mul_assoc, Int.mul_lt_mul_right (by omega)]
  simp only [nearestEven, hfloor, hlt, hgt]

theorem nearestEven_mono (hden : 0 < den) (hden' : 0 < den') (h : num * den' ≤ num' * den) :
    nearestEven num den ≤ nearestEven num' den' := by
  rcases h.eq_or_lt with heq | hlt
  · exact (nearestEven_congr hden hden' heq).le
  · by_contra hgt
    have hlow := (nearestEven_bounds num hden).1
    have hhigh := (nearestEven_bounds num' hden').2
    have hstep : 2 * nearestEven num' den' + 1 ≤ 2 * nearestEven num den - 1 := by omega
    have hchain : den * (den' * (2 * nearestEven num' den' + 1)) ≤
        den * (den' * (2 * nearestEven num den - 1)) := by gcongr
    nlinarith

/-- With one place more, the nearest integer is ten times as great, give or take five. -/
theorem nearestEven_ten (num : Int) (hden : 0 < den) :
    2 * nearestEven (num * 10) den ≤ 20 * nearestEven num den + 11 ∧
      20 * nearestEven num den ≤ 2 * nearestEven (num * 10) den + 11 := by
  obtain ⟨hlow, hhigh⟩ := nearestEven_bounds num hden
  obtain ⟨hlow', hhigh'⟩ := nearestEven_bounds (num * 10) hden
  have hden' : (0 : Int) < den := by omega
  constructor
  · refine Int.le_of_mul_le_mul_left ?_ hden'
    linarith
  · refine Int.le_of_mul_le_mul_left ?_ hden'
    linarith

namespace Decimal

variable {scale : Nat} {d d' : Decimal}

def unitsAt (num : Int) (den scale : Nat) : Int := nearestEven (num * pow10 scale) den

theorem unitsAt_succ (num : Int) (den scale : Nat) :
    unitsAt num den (scale + 1) = nearestEven (num * pow10 scale * 10) den := by
  simp only [unitsAt, pow10, Nat.pow_eq, pow_succ, Nat.cast_mul, Nat.cast_ofNat, mul_assoc]

theorem unitsAt_mono (hden : 0 < den) (hden' : 0 < den') (h : num * den' ≤ num' * den)
    (scale : Nat) : unitsAt num den scale ≤ unitsAt num' den' scale := by
  refine nearestEven_mono hden hden' ?_
  have := Int.mul_le_mul_of_nonneg_right h (Int.natCast_nonneg (pow10 scale))
  linarith

/-- What does not fit at a scale has no fewer units, ten for one, at the scale below. -/
theorem unitBound_le_unitsAt (hden : 0 < den)
    (h : (unitBound : Int) ≤ unitsAt num den (scale + 1)) :
    (unitBound : Int) ≤ unitsAt num den scale * 10 := by
  have hten := (nearestEven_ten (num * pow10 scale) hden).1
  rw [unitsAt_succ] at h
  simp only [unitsAt, unitBound, Nat.pow_eq, Nat.reducePow] at *
  omega

theorem unitsAt_le_neg_unitBound (hden : 0 < den)
    (h : unitsAt num den (scale + 1) ≤ -unitBound) : unitsAt num den scale * 10 ≤ -unitBound := by
  have hten := (nearestEven_ten (num * pow10 scale) hden).2
  rw [unitsAt_succ] at h
  simp only [unitsAt, unitBound, Nat.pow_eq, Nat.reducePow] at *
  omega

theorem ofUnits?_eq_some {units : Int} (h : ofUnits? units scale = some d) :
    d.units = units ∧ d.scale = scale := by
  unfold ofUnits? at h
  split at h
  · cases h
    exact ⟨rfl, rfl⟩
  · cases h

theorem ofUnits?_eq_none {units : Int} (hscale : scale ≤ 28) (h : ofUnits? units scale = none) :
    unitBound ≤ units.natAbs := by
  unfold ofUnits? at h
  split at h
  · cases h
  · omega

/-- The greatest scale is taken at which the nearest integer fits. -/
theorem nearest?_eq_some (hscale : scale ≤ 28) (h : nearest? num den scale = some d) :
    d.scale ≤ scale ∧ d.units = unitsAt num den d.scale ∧
      ∀ finer, d.scale < finer → finer ≤ scale → unitBound ≤ (unitsAt num den finer).natAbs := by
  induction scale with
  | zero =>
    obtain ⟨hunits, hzero⟩ := ofUnits?_eq_some h
    refine ⟨by omega, ?_, by omega⟩
    simpa [unitsAt, hzero, pow10] using hunits
  | succ scale ih =>
    unfold nearest? at h
    split at h
    · rename_i fit hfit
      obtain rfl : fit = d := by simpa using h
      obtain ⟨hunits, hs⟩ := ofUnits?_eq_some hfit
      exact ⟨by omega, by rw [hunits, hs, unitsAt], by omega⟩
    · rename_i hnone
      obtain ⟨hle, hunits, hfiner⟩ := ih (by omega) h
      refine ⟨by omega, hunits, ?_⟩
      intro finer hlt hfle
      rcases Nat.lt_or_eq_of_le hfle with hfle | rfl
      · exact hfiner finer hlt (by omega)
      · exact ofUnits?_eq_none hscale hnone

theorem nearest?_congr (hden : 0 < den) (hden' : 0 < den') (h : num * den' = num' * den)
    (scale : Nat) : nearest? num den scale = nearest? num' den' scale := by
  induction scale with
  | zero => simp only [nearest?, nearestEven_congr hden hden' h]
  | succ scale ih =>
    have hscaled : num * pow10 (scale + 1) * den' = num' * pow10 (scale + 1) * den := by
      linear_combination pow10 (scale + 1) * h
    simp only [nearest?, nearestEven_congr hden hden' hscaled, ih]

theorem unitsAt_nonneg (hden : 0 < den) (h : 0 ≤ num) (scale : Nat) :
    0 ≤ unitsAt num den scale := by
  have hmono := unitsAt_mono hden hden (show 0 * (den : Int) ≤ num * den by nlinarith) scale
  rwa [unitsAt, Int.zero_mul, ← Int.zero_mul (den : Int), nearestEven_mul 0 hden] at hmono

theorem unitsAt_nonpos (hden : 0 < den) (h : num ≤ 0) (scale : Nat) :
    unitsAt num den scale ≤ 0 := by
  have hmono := unitsAt_mono hden hden (show num * (den : Int) ≤ 0 * den by nlinarith) scale
  rwa [unitsAt.eq_def 0, Int.zero_mul, ← Int.zero_mul (den : Int), nearestEven_mul 0 hden] at hmono

theorem pow10_add_add_one (m n : Nat) : (pow10 (m + n + 1) : Int) = 10 * pow10 n * pow10 m := by
  simp only [pow10, Nat.pow_eq, pow_add, Nat.cast_mul, Nat.cast_pow, Nat.cast_ofNat]
  ring

theorem le_of_units_le_neg (h : d.units * 10 ≤ -unitBound) (hs : d.scale < d'.scale) :
    d ≤ d' := by
  obtain ⟨k, hk⟩ := Nat.exists_eq_add_of_lt hs
  have hd' := d'.units_lt
  have hpow : (1 : Int) ≤ pow10 k := by exact_mod_cast pow10_pos k
  have hunits : d.units * 10 * pow10 k ≤ d.units * 10 := by nlinarith
  calc d.units * pow10 d'.scale = d.units * 10 * pow10 k * pow10 d.scale := by
        rw [hk, pow10_add_add_one]
        ring
    _ ≤ d'.units * pow10 d.scale := Int.mul_le_mul_of_nonneg_right (by omega) (by omega)

theorem le_of_le_units (h : (unitBound : Int) ≤ d'.units * 10) (hs : d'.scale < d.scale) :
    d ≤ d' := by
  obtain ⟨k, hk⟩ := Nat.exists_eq_add_of_lt hs
  have hd := d.units_lt
  have hpow : (1 : Int) ≤ pow10 k := by exact_mod_cast pow10_pos k
  have hunits : d'.units * 10 ≤ d'.units * 10 * pow10 k := by nlinarith
  calc d.units * pow10 d'.scale ≤ d'.units * 10 * pow10 k * pow10 d'.scale :=
        Int.mul_le_mul_of_nonneg_right (by omega) (by omega)
    _ = d'.units * pow10 d.scale := by
        rw [hk, pow10_add_add_one]
        ring

/-- The greater quotient has the greater decimal. Where one of the two has fewer places, it did not
fit at the scale of the other and lies beyond all that does. -/
theorem nearest?_mono (hden : 0 < den) (hden' : 0 < den') (h : num * den' ≤ num' * den)
    (hscale : scale ≤ 28) (hd : nearest? num den scale = some d)
    (hd' : nearest? num' den' scale = some d') : d ≤ d' := by
  obtain ⟨hle, hunits, hfiner⟩ := nearest?_eq_some hscale hd
  obtain ⟨hle', hunits', hfiner'⟩ := nearest?_eq_some hscale hd'
  rcases Nat.lt_trichotomy d.scale d'.scale with hs | hs | hs
  · have hmono := unitsAt_mono hden hden' h d'.scale
    have hfits := d'.units_lt
    have hbig := hfiner d'.scale hs hle'
    have hneg : num ≤ 0 := by
      by_contra hpos
      have := unitsAt_nonneg hden (show 0 ≤ num by omega) d'.scale
      omega
    have hnext := hfiner (d.scale + 1) (by omega) (by omega)
    have hsign := unitsAt_nonpos hden hneg (d.scale + 1)
    refine le_of_units_le_neg ?_ hs
    rw [hunits]
    exact unitsAt_le_neg_unitBound hden (by omega)
  · have hmono := unitsAt_mono hden hden' h d.scale
    change d.units * pow10 d'.scale ≤ d'.units * pow10 d.scale
    rw [hunits, hunits', ← hs]
    exact Int.mul_le_mul_of_nonneg_right hmono (by omega)
  · have hmono := unitsAt_mono hden hden' h d.scale
    have hfits := d.units_lt
    have hbig := hfiner' d.scale hs hle
    have hpos : 0 ≤ num' := by
      by_contra hneg
      have := unitsAt_nonpos hden' (show num' ≤ 0 by omega) d.scale
      omega
    have hnext := hfiner' (d'.scale + 1) (by omega) (by omega)
    have hsign := unitsAt_nonneg hden' hpos (d'.scale + 1)
    refine le_of_le_units ?_ hs
    rw [hunits']
    exact unitBound_le_unitsAt hden' (by omega)

theorem toRat_eq_of_units {n : Int} (h : n * pow10 d.scale = d.units * pow10 scale)
    (hd' : ofUnits? n scale = some d') : d'.toRat = d.toRat := by
  obtain ⟨hunits, hscale⟩ := ofUnits?_eq_some hd'
  rw [toRat, toRat, div_eq_div_iff (by positivity) (by positivity), hunits, hscale]
  simpa [pow10] using congrArg (Int.cast : Int → ℚ) h

theorem natAbs_lt_unitBound {n : Int} (h : n * pow10 d.scale = d.units * pow10 scale)
    (hscale : scale ≤ d.scale) : n.natAbs < unitBound := by
  refine lt_of_le_of_lt ?_ d.units_lt
  have hpow : pow10 scale ≤ pow10 d.scale := Nat.pow_le_pow_right (by decide) hscale
  have habs : n.natAbs * pow10 d.scale = d.units.natAbs * pow10 scale := by
    simpa [Int.natAbs_mul] using congrArg Int.natAbs h
  refine Nat.le_of_mul_le_mul_right ?_ (pow10_pos d.scale)
  rw [habs]
  exact Nat.mul_le_mul_left _ hpow

/-- A quotient that is an integer at the scale asked for and has a decimal at all is not rounded. -/
theorem nearest?_exact (hden : 0 < den) {n : Int} (hn : num * pow10 scale = n * den)
    (hscale : scale ≤ 28) (hd : num * pow10 d.scale = d.units * den) :
    ∃ fit, nearest? num den scale = some fit ∧ fit.toRat = d.toRat := by
  have hsame {scale : Nat} {n : Int} (hn : num * pow10 scale = n * den) :
      n * pow10 d.scale = d.units * pow10 scale := by
    refine Int.eq_of_mul_eq_mul_right (show (den : Int) ≠ 0 by omega) ?_
    linear_combination pow10 scale * hd - pow10 d.scale * hn
  induction scale generalizing n with
  | zero =>
    have hfits : n.natAbs < unitBound := natAbs_lt_unitBound (hsame hn) (Nat.zero_le _)
    have hn' : num = n * den := by simpa [pow10] using hn
    refine ⟨⟨n, 0, hfits, hscale, false, by simp⟩, ?_, ?_⟩
    · rw [nearest?, hn', nearestEven_mul n hden, ofUnits?, dif_pos ⟨hfits, hscale⟩]
    · exact toRat_eq_of_units (hsame hn) (dif_pos ⟨hfits, hscale⟩)
  | succ scale ih =>
    cases hfit : ofUnits? n (scale + 1) with
    | some fit =>
      refine ⟨fit, ?_, toRat_eq_of_units (hsame hn) hfit⟩
      rw [nearest?, hn, nearestEven_mul n hden, hfit]
    | none =>
      have hbig := ofUnits?_eq_none hscale hfit
      have hcoarser : d.scale ≤ scale := by
        by_contra hfiner
        have := natAbs_lt_unitBound (hsame hn) (by omega)
        omega
      have hn' : num * pow10 scale = d.units * pow10 (scale - d.scale) * den := by
        have hpow : pow10 scale = pow10 d.scale * pow10 (scale - d.scale) := by
          simp [pow10, ← pow_add, hcoarser]
        rw [hpow, Nat.cast_mul]
        linear_combination pow10 (scale - d.scale) * hd
      obtain ⟨fit, hnearest, hrat⟩ := ih hn' (by omega)
      refine ⟨fit, ?_, hrat⟩
      rw [nearest?, hn, nearestEven_mul n hden, hfit]
      exact hnearest

variable {a b c : Decimal}

def Representable (q : ℚ) : Prop := ∃ d : Decimal, d.toRat = q

theorem representable_toRat (d : Decimal) : Representable d.toRat := ⟨d, rfl⟩

theorem nearest?_of_representable (u v : Int) {m n : Nat} (hm : m ≤ 28) (hn : n ≤ 28)
    (h : Representable (u / 10 ^ m + v / 10 ^ n)) :
    ∃ c, nearest? (u * pow10 n + v * pow10 m) (pow10 (m + n)) (max m n) = some c ∧
      c.toRat = u / 10 ^ m + v / 10 ^ n := by
  obtain ⟨d, hd⟩ := h
  have hpow {k : Nat} (hk : k ≤ max m n) : pow10 (max m n) = pow10 (max m n - k) * pow10 k := by
    simp [pow10, ← pow_add, hk]
  have hscaled : (u * pow10 n + v * pow10 m : Int) * pow10 (max m n) =
      (u * pow10 (max m n - m) + v * pow10 (max m n - n)) * pow10 (m + n) := by
    have hadd : (pow10 (m + n) : Int) = pow10 m * pow10 n := by simp [pow10, pow_add]
    have hmax : (pow10 (max m n) : Int) = pow10 (max m n - m) * pow10 m := by
      exact_mod_cast hpow (le_max_left m n)
    have hmax' : (pow10 (max m n) : Int) = pow10 (max m n - n) * pow10 n := by
      exact_mod_cast hpow (le_max_right m n)
    rw [hadd]
    linear_combination u * pow10 n * hmax + v * pow10 m * hmax'
  have hvalue : (u * pow10 n + v * pow10 m : Int) * pow10 d.scale = d.units * pow10 (m + n) := by
    rw [toRat, div_add_div _ _ (by positivity) (by positivity), ← pow_add,
      div_eq_div_iff (by positivity) (by positivity)] at hd
    have hcast : ((d.units * pow10 (m + n) : Int) : ℚ) =
        ((u * pow10 n + v * pow10 m : Int) * pow10 d.scale : Int) := by
      simp only [pow10, Nat.pow_eq]
      push_cast
      linear_combination hd
    exact_mod_cast hcast.symm
  obtain ⟨c, hc, hrat⟩ := nearest?_exact (pow10_pos _) hscaled (by omega) hvalue
  exact ⟨c, hc, hrat.trans hd⟩

theorem add_exact (h : Representable (a.toRat + b.toRat)) :
    ∃ c, a.add b = .ok c ∧ c.toRat = a.toRat + b.toRat := by
  obtain ⟨c, hc, hrat⟩ := nearest?_of_representable a.units b.units a.scale_le b.scale_le h
  exact ⟨c, by rw [add, hc]; rfl, hrat⟩

theorem sub_exact (h : Representable (a.toRat - b.toRat)) :
    ∃ c, a.sub b = .ok c ∧ c.toRat = a.toRat - b.toRat := by
  have hneg : a.toRat - b.toRat =
      a.units / 10 ^ a.scale + ((-b.units : Int) : ℚ) / 10 ^ b.scale := by
    rw [toRat, toRat]
    push_cast
    ring
  rw [hneg] at h
  obtain ⟨c, hc, hrat⟩ := nearest?_of_representable a.units (-b.units) a.scale_le b.scale_le h
  rw [neg_mul, ← sub_eq_add_neg] at hc
  exact ⟨c, by rw [sub, hc]; rfl, by rw [hrat, hneg]⟩

theorem toRat_zero : (0 : Decimal).toRat = 0 := by
  change ((0 : Int) : ℚ) / 10 ^ 0 = 0
  simp

theorem le_max_zero_iff (hpos : 0 < a) : a ≤ max b 0 ↔ a ≤ b := by
  change a ≤ (if b < 0 then 0 else b) ↔ a ≤ b
  split
  · rename_i hneg
    rw [lt_iff_toRat_lt] at hpos hneg
    rw [le_iff_toRat_le, le_iff_toRat_le]
    constructor <;> intro hle <;> linarith
  · exact Iff.rfl

theorem max_zero_congr (h : a.toRat = b.toRat) : (max a 0).toRat = (max b 0).toRat := by
  have hneg : a < 0 ↔ b < 0 := by
    rw [lt_iff_toRat_lt, lt_iff_toRat_lt, h]
  change (if a < 0 then 0 else a).toRat = (if b < 0 then 0 else b).toRat
  by_cases hlt : a < 0
  · rw [if_pos hlt, if_pos (hneg.mp hlt)]
  · rw [if_neg hlt, if_neg (mt hneg.mpr hlt), h]

theorem units_mul_eq_iff :
    a.units * pow10 b.scale = b.units * pow10 a.scale ↔ a.toRat = b.toRat := by
  rw [toRat, toRat, div_eq_div_iff (by positivity) (by positivity)]
  rw [← Int.cast_inj (α := ℚ)]
  simp [pow10]

/-- Quotients do not depend on the form in which the number to be divided is written. -/
theorem div_congr (h : a.toRat = b.toRat) (c : Decimal) : a.div c = b.div c := by
  unfold div
  split
  · rfl
  · rename_i hc
    have hden : 0 < c.units.natAbs := by omega
    rw [nearest?_congr (Nat.mul_pos hden (pow10_pos _)) (Nat.mul_pos hden (pow10_pos _))]
    push_cast
    linear_combination c.units.sign * pow10 c.scale * |c.units| * units_mul_eq_iff.mpr h

/-- Nor do they depend on the form of the number that divides. -/
theorem div_congr_right (h : b.toRat = c.toRat) (a : Decimal) : a.div b = a.div c := by
  have hunits := units_mul_eq_iff.mpr h
  have hpow (d : Decimal) : (0 : Int) < pow10 d.scale := by exact_mod_cast pow10_pos d.scale
  have hsign : b.units.sign = c.units.sign := by
    have hscaled := congrArg Int.sign hunits
    rwa [Int.sign_mul, Int.sign_mul, Int.sign_eq_one_of_pos (hpow c),
      Int.sign_eq_one_of_pos (hpow b), mul_one, mul_one] at hscaled
  have hzero : b.units = 0 ↔ c.units = 0 := by
    rw [← Int.sign_eq_zero_iff_zero, hsign, Int.sign_eq_zero_iff_zero]
  have habs : |b.units| * pow10 c.scale = |c.units| * pow10 b.scale := by
    have hscaled := congrArg abs hunits
    rwa [abs_mul, abs_mul, abs_of_pos (hpow c), abs_of_pos (hpow b)] at hscaled
  unfold div
  by_cases hb : b.units = 0
  · rw [if_pos hb, if_pos (hzero.mp hb)]
  · have hc : ¬ c.units = 0 := mt hzero.mpr hb
    have hden : 0 < b.units.natAbs := by omega
    have hden' : 0 < c.units.natAbs := by omega
    rw [if_neg hb, if_neg hc, hsign,
      nearest?_congr (Nat.mul_pos hden (pow10_pos _)) (Nat.mul_pos hden' (pow10_pos _))]
    push_cast
    linear_combination -c.units.sign * a.units * pow10 a.scale * habs

/-- Where the quotient is an integer at a scale, it is the same number whether the search for room
starts there or at a finer scale. -/
theorem nearest?_finer (hden : 0 < den) {n : Int} (hn : num * pow10 scale = n * den) {finer : Nat}
    (hle : scale ≤ finer) (hfiner : finer ≤ 28) :
    (nearest? num den finer).map toRat = (nearest? num den scale).map toRat := by
  induction finer, hle using Nat.le_induction with
  | base => rfl
  | succ finer hle ih =>
    have hpow : pow10 (finer + 1) = pow10 scale * pow10 (finer + 1 - scale) := by
      simp [pow10, ← pow_add, show scale + (finer + 1 - scale) = finer + 1 by omega]
    have hn' : num * pow10 (finer + 1) = n * pow10 (finer + 1 - scale) * den := by
      rw [hpow]
      push_cast
      linear_combination pow10 (finer + 1 - scale) * hn
    rw [nearest?, hn', nearestEven_mul _ hden]
    cases hfit : ofUnits? (n * pow10 (finer + 1 - scale)) (finer + 1) with
    | none => exact ih (by omega)
    | some fit =>
      obtain ⟨hunits, hscale⟩ := ofUnits?_eq_some hfit
      obtain ⟨coarse, hcoarse, hrat⟩ := nearest?_exact hden hn (by omega)
        (d := fit) (by rw [hunits, hscale, hn'])
      rw [hcoarse]
      exact congrArg some hrat.symm

theorem exists_units_sub (a u : Decimal) :
    ∃ n : Int, (a.units * pow10 u.scale - u.units * pow10 a.scale) * pow10 (max a.scale u.scale) =
      n * pow10 (a.scale + u.scale) := by
  have hpow {k m : Nat} (hk : k ≤ m) : (pow10 m : Int) = pow10 (m - k) * pow10 k := by
    simp [pow10, ← pow_add, hk]
  refine ⟨a.units * pow10 (max a.scale u.scale - a.scale) -
    u.units * pow10 (max a.scale u.scale - u.scale), ?_⟩
  have hadd : (pow10 (a.scale + u.scale) : Int) = pow10 a.scale * pow10 u.scale := by
    simp [pow10, pow_add]
  rw [hadd]
  linear_combination a.units * pow10 u.scale * hpow (le_max_left a.scale u.scale) -
    u.units * pow10 a.scale * hpow (le_max_right a.scale u.scale)

/-- A difference is the same number, or is refused, whatever the form of what is taken from. -/
theorem sub_congr (h : a.toRat = b.toRat) (u : Decimal) :
    (a.sub u).map toRat = (b.sub u).map toRat := by
  have hmap (result : Option Decimal) : (orFault .subtraction result).map toRat =
      match result.map toRat with
      | some q => .ok q
      | none => .error .subtraction := by
    cases result <;> rfl
  obtain ⟨n, hn⟩ := exists_units_sub a u
  obtain ⟨n', hn'⟩ := exists_units_sub b u
  have hquotients : (a.units * pow10 u.scale - u.units * pow10 a.scale) *
      (pow10 (b.scale + u.scale) : Nat) =
      (b.units * pow10 u.scale - u.units * pow10 b.scale) * (pow10 (a.scale + u.scale) : Nat) := by
    have hadd (d : Decimal) : (pow10 (d.scale + u.scale) : Int) = pow10 d.scale * pow10 u.scale := by
      simp [pow10, pow_add]
    rw [hadd, hadd]
    linear_combination pow10 u.scale * pow10 u.scale * units_mul_eq_iff.mpr h
  have hsame := nearest?_congr (pow10_pos _) (pow10_pos _) hquotients
  have hbound (d : Decimal) : max d.scale u.scale ≤ 28 := max_le d.scale_le u.scale_le
  rw [sub, sub, hmap, hmap]
  rcases le_total (max a.scale u.scale) (max b.scale u.scale) with hle | hle
  · rw [← hsame (max b.scale u.scale), nearest?_finer (pow10_pos _) hn hle (hbound b)]
  · rw [hsame (max a.scale u.scale), nearest?_finer (pow10_pos _) hn' hle (hbound a)]

theorem orFault_eq_ok {fault : ArithmeticFault} {result : Option Decimal} :
    orFault fault result = .ok a ↔ result = some a := by
  cases result <;> simp [orFault]

theorem units_pos (h : 0 < a) : 0 < a.units := by
  change (0 : Int) * pow10 a.scale < a.units * pow10 0 at h
  simpa [pow10] using h

/-- Division by a positive number keeps the order, although the quotients are rounded. -/
theorem div_mono (h : a ≤ b) (hc : 0 < c) {q q' : Decimal} (ha : a.div c = .ok q)
    (hb : b.div c = .ok q') : q ≤ q' := by
  have hunits := units_pos hc
  have hden : 0 < c.units.natAbs := by omega
  rw [div, if_neg (by omega), orFault_eq_ok, Int.sign_eq_one_of_pos hunits, Int.one_mul] at ha hb
  refine nearest?_mono (Nat.mul_pos hden (pow10_pos _)) (Nat.mul_pos hden (pow10_pos _)) ?_
    (by decide) ha hb
  push_cast
  have hscaled := Int.mul_le_mul_of_nonneg_right h
    (show (0 : Int) ≤ pow10 c.scale * |c.units| by positivity)
  linarith

end Decimal

end RecurringBilling
