import RecurringBilling.Proofs.Decimal.HalfAway

/-! Percentages of counts. They are rounded twice, to as many places as there is room for and then to
two; what 64 bits can count is divided with so many places that the first rounding never shows. -/

namespace RecurringBilling

namespace Decimal

variable {num : Int} {den : Nat} {q : Decimal}

/-- The quotient has more places, beyond the two that are kept, than the denominator has digits. -/
theorem exists_scale_of_nearest? (hnum : 0 ≤ num) (hnum' : num < 100 * 2 ^ 63) (hden : 0 < den)
    (hden' : den < 2 ^ 63) (h : nearest? num den 28 = some q) :
    ∃ more, q.scale = more + 2 ∧ den < pow10 more := by
  obtain ⟨hscale, -, hfiner⟩ := nearest?_eq_some (Nat.le_refl 28) h
  rcases Nat.lt_or_eq_of_le hscale with hlt | heq
  · -- with one place more the quotient would not fit, so that it is large for its places
    have hbig : (unitBound : Int) ≤ unitsAt num den (q.scale + 1) := by
      have hfits := hfiner (q.scale + 1) (by omega) (by omega)
      have hsign := unitsAt_nonneg hden hnum (q.scale + 1)
      omega
    have hbelow := (nearestEven_bounds (num * pow10 (q.scale + 1)) hden).1
    have hroom : den * (2 * (unitBound : Int) - 1) ≤ 2 * (100 * 2 ^ 63) * pow10 (q.scale + 1) := by
      calc den * (2 * (unitBound : Int) - 1) ≤ den * (2 * unitsAt num den (q.scale + 1) - 1) :=
            Int.mul_le_mul_of_nonneg_left (by omega) (by omega)
        _ ≤ 2 * (num * pow10 (q.scale + 1)) := hbelow
        _ = 2 * num * pow10 (q.scale + 1) := by ring
        _ ≤ 2 * (100 * 2 ^ 63) * pow10 (q.scale + 1) :=
            Int.mul_le_mul_of_nonneg_right (by omega) (by omega)
    have hbound : (unitBound : Int) = 2 ^ 96 := by decide
    rw [hbound] at hroom
    generalize hs : q.scale = scale at *
    match scale with
    | 0 | 1 =>
      simp only [pow10, Nat.pow_eq] at hroom
      omega
    | more + 2 =>
      refine ⟨more, rfl, ?_⟩
      have hpow : (pow10 (more + 2 + 1) : Int) = 1000 * pow10 more := by
        simp only [pow10, Nat.pow_eq, pow_succ]
        push_cast
        ring
      rw [hpow] at hroom
      omega
  · exact ⟨26, heq, lt_trans hden' (by decide)⟩

theorem halfAway_toRat_of_nearest? (hnum : 0 ≤ num) (hnum' : num < 100 * 2 ^ 63) (hden : 0 < den)
    (hden' : den < 2 ^ 63) (h : nearest? num den 28 = some q) :
    halfAway 2 q.toRat = halfAway 2 (num / den) := by
  obtain ⟨more, hscale, hsteps⟩ := exists_scale_of_nearest? hnum hnum' hden hden' h
  obtain ⟨-, hunits, -⟩ := nearest?_eq_some (Nat.le_refl 28) h
  have hunits : q.units = nearestEven (num * 100 * pow10 more) den := by
    have hpow : (pow10 (more + 2) : Int) = 100 * pow10 more := by
      simp only [pow10, Nat.pow_eq, pow_add]
      push_cast
      ring
    rw [hunits, unitsAt, hscale, hpow, Int.mul_assoc]
  have heven : 2 ∣ pow10 more := by
    obtain ⟨k, rfl⟩ : ∃ k, more = k + 1 := by
      refine Nat.exists_eq_add_one_of_ne_zero ?_
      rintro rfl
      exact absurd hsteps (by simp [pow10]; omega)
    exact Dvd.dvd.trans (by decide) (dvd_pow_self 10 (Nat.succ_ne_zero k))
  have hleft : q.toRat * 10 ^ 2 = q.units / pow10 more := by
    simp only [toRat, hscale, pow10, Nat.pow_eq, pow_add]
    push_cast
    field_simp
  have hright : (num / den * 10 ^ 2 : ℚ) = (num * 100 : Int) / den := by
    push_cast
    ring
  rw [halfAway, halfAway, hleft, hright, ← nearestAway_eq_roundAway _ (pow10_pos _),
    ← nearestAway_eq_roundAway _ hden, hunits,
    nearestAway_nearestEven (Int.mul_nonneg hnum (by decide)) hden hsteps heven]

end Decimal

namespace Reports

open Decimal

variable {part part' whole : Int} {d d' : Decimal}

theorem exists_quotient_of_percentage (hwhole : 0 < whole) (h : percentage part whole = .ok d) :
    ∃ q, nearest? (100 * part) whole.toNat 28 = some q ∧ round2 q = d := by
  obtain ⟨product, divisor, q, ⟨hproduct, hscale⟩, ⟨hdivisor, hscale'⟩, hq, hround⟩ :=
    percentage_eq_ok (by omega) h
  refine ⟨q, ?_, hround⟩
  have habs : whole.natAbs = whole.toNat := by omega
  rw [div, if_neg (by omega), orFault_eq_ok, hproduct, hdivisor, hscale, hscale', habs,
    Int.sign_eq_one_of_pos hwhole, Int.one_mul] at hq
  simpa [pow10] using hq

theorem toRat_percentage (hpart : 0 ≤ part) (hpart' : part < 2 ^ 63) (hwhole : 0 < whole)
    (hwhole' : whole < 2 ^ 63) (h : percentage part whole = .ok d) :
    d.toRat = halfAway 2 (100 * part / whole) := by
  obtain ⟨q, hq, rfl⟩ := exists_quotient_of_percentage hwhole h
  have hvalue : (100 * part / whole : ℚ) = (100 * part : Int) / whole.toNat := by
    obtain ⟨w, rfl⟩ := Int.eq_ofNat_of_zero_le hwhole.le
    simp
  rw [round2, toRat_roundTo_eq_halfAway, hvalue]
  exact halfAway_toRat_of_nearest? (by omega) (by omega) (by omega) (by omega) hq

/-- The percentage that a part is of a whole, for any two counts of 64 bits. -/
theorem percentage_rounded_once (hpart : 0 ≤ part) (hpart' : part < 2 ^ 63) (hwhole : 0 < whole)
    (hwhole' : whole < 2 ^ 63) :
    ∃ d, percentage part whole = .ok d ∧ d.scale ≤ 2 ∧ d.toRat = halfAway 2 (100 * part / whole) ∧
      (∀ more, part ≤ more → more < 2 ^ 63 → ∃ d', percentage more whole = .ok d' ∧ d ≤ d') ∧
      (part ≤ whole → 0 ≤ d ∧ d ≤ hundred) := by
  have hroom : 100 * 2 ^ 63 < unitBound := by decide
  have hok : ∀ part : Int, 0 ≤ part → part < 2 ^ 63 → ∃ d, percentage part whole = .ok d :=
    fun part hpart hpart' => percentage_isOk (by omega) (by omega)
  obtain ⟨d, hd⟩ := hok part hpart hpart'
  have hvalue := toRat_percentage hpart hpart' hwhole hwhole' hd
  refine ⟨d, hd, ?_, hvalue, fun more hle hmore => ?_, fun hle => percentage_mem hpart hle hd⟩
  · obtain ⟨q, -, rfl⟩ := exists_quotient_of_percentage hwhole hd
    exact scale_roundTo_le q 2
  · obtain ⟨d', hd'⟩ := hok more (hpart.trans hle) hmore
    have hvalue' := toRat_percentage (hpart.trans hle) hmore hwhole hwhole' hd'
    refine ⟨d', hd', ?_⟩
    rw [le_iff_toRat_le, hvalue, hvalue']
    have hwhole : (0 : ℚ) < whole := by exact_mod_cast hwhole
    have hle : (part : ℚ) ≤ more := by exact_mod_cast hle
    exact halfAway_mono (by gcongr) 2

/-- One of eight hundred is an eighth of a percent, which lies midway between two hundredths. -/
theorem percentage_rounded_once_eighth :
    (0 : Int) ≤ 1 ∧ (1 : Int) < 2 ^ 63 ∧ (0 : Int) < 800 ∧ (800 : Int) < 2 ^ 63 ∧
      ∃ d, percentage 1 800 = .ok d ∧ d.scale ≤ 2 ∧ d.toRat = 13 / 100 ∧
        (∃ d', percentage 799 800 = .ok d' ∧ d ≤ d') ∧ 0 ≤ d ∧ d ≤ hundred := by
  have hpart : (0 : Int) ≤ 1 := by decide
  have hwhole : (0 : Int) < 800 := by decide
  obtain ⟨d, hd, hscale, hvalue, hmono, hmem⟩ :=
    percentage_rounded_once hpart (by decide) hwhole (by decide)
  refine ⟨hpart, by decide, hwhole, by decide, d, hd, hscale, ?_,
    hmono 799 (by decide) (by decide), hmem (by decide)⟩
  rw [hvalue]
  norm_num [halfAway, roundAway]

end Reports

end RecurringBilling
