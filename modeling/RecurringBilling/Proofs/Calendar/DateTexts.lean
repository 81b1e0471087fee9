import Mathlib.Tactic.IntervalCases
import RecurringBilling.Proofs.Calendar.MonthTexts
import RecurringBilling.Proofs.Results
import RecurringBilling.Proofs.Text.Numerals

/-! Which texts are read as dates. The reader stops at the first character that it cannot use, so
each number is as long as its digits go; the calendar bounds the year more closely than it does. -/

namespace RecurringBilling

open Calendar Text

namespace Date

/-- A year of up to four digits, or of a sign and any number of digits. -/
inductive YearNumeral : List Char → Int → Prop where
  | plain {ds n} : Numeral ds n → ds.length ≤ 4 → YearNumeral ds n
  | plus {ds n} : Numeral ds n → YearNumeral ('+' :: ds) n
  | minus {ds n} : Numeral ds n → YearNumeral ('-' :: ds) (-n)

/-- What may stand where blanks are left out only if the text is `spaced`. -/
def Gap (spaced : Bool) (cs : List Char) : Prop := if spaced then AllBlank cs else cs = []

/-- The texts that spell a date: its year, month and day with dashes between them. -/
inductive Spelling (spaced : Bool) (d : Date) : List Char → Prop where
  | mk {year month day} {blanks y gap blanks' m gap' blanks'' k gap''} :
    AllBlank blanks → YearNumeral y year → Gap spaced gap →
    AllBlank blanks' → Numeral m month → m.length ≤ 2 → Gap spaced gap' →
    AllBlank blanks'' → Numeral k day → k.length ≤ 2 → Gap spaced gap'' →
    ofCivil? year month day = some d →
    Spelling spaced d
      (blanks ++ (y ++ (gap ++ '-' ::
        (blanks' ++ (m ++ (gap' ++ '-' :: (blanks'' ++ (k ++ gap''))))))))

variable {spaced : Bool} {d : Date} {year : Int} {n low high limit month day : Nat}
  {cs rest ds : List Char}

theorem Gap.allBlank (h : Gap spaced cs) : AllBlank cs := by
  cases spaced with
  | true => exact h
  | false =>
    obtain rfl : cs = [] := h
    exact nofun

/-! ### Numbers -/

theorem takeNumber?_append (h : Numeral ds n) (hlimit : ds.length ≤ limit)
    (hend : ds.length = limit ∨ DigitsEnd rest) :
    takeNumber? limit (ds ++ rest) = some (n, rest) := by
  have hrun : ((ds ++ rest).take limit).takeWhile Char.isDigit = ds := by
    rw [List.take_append, List.take_of_length_le hlimit,
      List.takeWhile_append_of_pos h.digits]
    rcases hend with rfl | hend
    · simp
    · cases rest with
      | nil => simp
      | cons c cs =>
        have hc : c.isDigit = false := hend c rfl
        cases limit - ds.length <;> simp [hc]
  rw [takeNumber?, hrun]
  simp [h.ne_nil, h.value]

theorem exists_of_takeNumber? (h : takeNumber? limit cs = some (n, rest)) :
    ∃ ds, cs = ds ++ rest ∧ Numeral ds n ∧ ds.length ≤ limit := by
  rw [takeNumber?] at h
  generalize hds : (cs.take limit).takeWhile Char.isDigit = ds at h
  have hinitial : ds <+: cs.take limit := hds ▸ List.takeWhile_prefix _
  have hdigits : ∀ c ∈ ds, c.isDigit = true := fun c hc =>
    List.mem_takeWhile_imp (hds ▸ hc)
  by_cases hnil : ds = []
  · simp [hnil] at h
  · simp only [List.isEmpty_iff, hnil, if_false, Option.some.injEq, Prod.mk.injEq] at h
    obtain ⟨hn, rfl⟩ := h
    refine ⟨ds, ?_, ⟨hnil, hdigits, hn⟩, hinitial.length_le.trans (List.length_take_le _ _)⟩
    exact (List.prefix_iff_eq_append.mp (hinitial.trans (List.take_prefix _ _))).symm

theorem takeWithin_append (h : Numeral ds n) (hlimit : ds.length ≤ limit)
    (hend : ds.length = limit ∨ DigitsEnd rest) (hbounds : low ≤ n ∧ n ≤ high) :
    takeWithin low high limit (ds ++ rest) = .ok (n, rest) := by
  rw [takeWithin, takeNumber?_append h hlimit hend]
  exact if_pos hbounds

theorem exists_of_takeWithin (h : takeWithin low high limit cs = .ok (n, rest)) :
    ∃ ds, cs = ds ++ rest ∧ Numeral ds n ∧ ds.length ≤ limit := by
  rw [takeWithin] at h
  split at h
  · rename_i hnumber
    split at h
    · cases h
      exact exists_of_takeNumber? hnumber
    · cases h
  · cases h

/-! ### Years -/

theorem YearNumeral.bareStart {y : List Char} (h : YearNumeral y year) : BareStart (y ++ cs) := by
  cases h with
  | plain h _ => exact h.bareStart
  | plus _ | minus _ =>
    rintro _ ⟨⟩
    decide

theorem takeYear_append {y : List Char} (h : YearNumeral y year) (hend : DigitsEnd rest)
    (hyear : -262143 ≤ year ∧ year ≤ 262142) : takeYear (y ++ rest) = .ok (year, rest) := by
  cases h with
  | @plus ds n h =>
    simp only [List.cons_append, takeYear]
    rw [takeWithin_append h (by simp) (.inr hend) (by omega)]
    rfl
  | @minus ds n h =>
    simp only [List.cons_append, takeYear]
    rw [takeWithin_append h (by simp) (.inr hend) (by omega)]
    rfl
  | @plain _ n h hlength =>
    have hlt : n ≤ 9999 := by
      have hwide := natOfDigits_lt h.digits
      have hpow := Nat.pow_le_pow_right (show 0 < 10 by decide) hlength
      have hvalue := h.value
      omega
    unfold takeYear
    split
    · rename_i hcons
      cases y with
      | nil => exact absurd rfl h.ne_nil
      | cons c _ =>
        cases hcons
        exact absurd (h.digits '-' List.mem_cons_self) (by decide)
    · rename_i hcons
      cases y with
      | nil => exact absurd rfl h.ne_nil
      | cons c _ =>
        cases hcons
        exact absurd (h.digits '+' List.mem_cons_self) (by decide)
    · rw [takeWithin_append h hlength (.inr hend) ⟨Nat.zero_le _, hlt⟩]
      rfl

theorem exists_of_takeYear (h : takeYear cs = .ok (year, rest)) :
    ∃ y, cs = y ++ rest ∧ YearNumeral y year := by
  unfold takeYear at h
  split at h
  · rename_i tail
    cases htake : takeWithin 0 2147483648 tail.length tail with
    | error fault => rw [htake] at h; cases h
    | ok taken =>
      rw [htake] at h
      cases h
      obtain ⟨ds, rfl, hds, -⟩ := exists_of_takeWithin htake
      exact ⟨_, rfl, .minus hds⟩
  · rename_i tail
    cases htake : takeWithin 0 2147483647 tail.length tail with
    | error fault => rw [htake] at h; cases h
    | ok taken =>
      rw [htake] at h
      cases h
      obtain ⟨ds, rfl, hds, -⟩ := exists_of_takeWithin htake
      exact ⟨_, rfl, .plus hds⟩
  · cases htake : takeWithin 0 9999 4 cs with
    | error fault => rw [htake] at h; cases h
    | ok taken =>
      rw [htake] at h
      cases h
      obtain ⟨ds, rfl, hds, hlength⟩ := exists_of_takeWithin htake
      exact ⟨_, rfl, .plain hds hlength⟩

/-! ### The calendar -/

theorem monthLength_le (year : Int) (hmonth : month ≤ 12) : monthLength year month ≤ 31 := by
  rw [monthLength]
  interval_cases month <;> cases isLeap year <;> decide

theorem yearStart_mono {year year' : Int} (h : year ≤ year') : yearStart year ≤ yearStart year' := by
  rcases Int.lt_or_eq_of_le h with hlt | rfl
  · simp only [yearStart]
    omega
  · exact Int.le_refl _

theorem ofCivil?_bounds (h : ofCivil? year month day = some d) :
    (-262143 ≤ year ∧ year ≤ 262142) ∧ (1 ≤ month ∧ month ≤ 12) ∧ 1 ≤ day ∧ day ≤ 31 := by
  have hday := ofCivil?_eq_some h
  unfold ofCivil? at h
  split at h
  · rename_i hcivil
    obtain ⟨hfirst, hlast, hone, hlength⟩ := hcivil
    have hshort := monthLength_le year hlast
    have hnext : monthStart (isLeap year) (month + 1) ≤ monthStart (isLeap year) 13 := by
      interval_cases month <;> cases isLeap year <;> decide
    have hyear := yearStart_succ year
    have hend : day ≤ monthStart (isLeap year) (month + 1) - monthStart (isLeap year) month :=
      hlength
    have hlt : d.day < yearStart (year + 1) := by omega
    have hle : yearStart year ≤ d.day := by omega
    have hlow := d.first_le
    have hhigh := d.le_last
    rw [firstDay] at hlow
    rw [lastDay] at hhigh
    refine ⟨⟨?_, ?_⟩, ⟨hfirst, hlast⟩, hone, hlength.trans hshort⟩
    · by_contra hearly
      have hmono := yearStart_mono (show year + 1 ≤ -262143 by omega)
      omega
    · by_contra hlate
      have hmono := yearStart_mono (show 262143 ≤ year by omega)
      omega
  · cases h

theorem ofCivil?_self (d : Date) : ofCivil? d.year d.month d.dayOfMonth = some d := by
  obtain ⟨hday, hyear⟩ := d.dayOfYear_lt
  obtain ⟨hfirst, hlast, hstart, hend⟩ := monthOf_bounds (isLeap d.year) hyear
  change 1 ≤ d.month at hfirst
  change d.month ≤ 12 at hlast
  change monthStart (isLeap d.year) d.month ≤ d.dayOfYear at hstart
  change d.dayOfYear < monthStart (isLeap d.year) (d.month + 1) at hend
  have hsum : yearStart d.year + monthStart (isLeap d.year) d.month + (d.dayOfMonth - 1 : Nat) =
      d.day := by
    rw [dayOfMonth]
    omega
  rw [ofCivil?, if_pos ⟨hfirst, hlast, by rw [dayOfMonth]; omega, by
    rw [dayOfMonth, monthLength]; omega⟩, hsum]
  exact dif_pos ⟨d.first_le, d.le_last⟩

/-! ### Dates -/

/-- What the reader does with blanks that only a `spaced` text may have. -/
def skip (spaced : Bool) (cs : List Char) : List Char := if spaced then trimStart cs else cs

theorem read_eq (spaced : Bool) (cs : List Char) : read spaced cs = (do
    let (year, cs) ← takeYear (trimStart cs)
    let cs ← takeDash (skip spaced cs)
    let (month, cs) ← takeWithin 1 12 2 (trimStart cs)
    let cs ← takeDash (skip spaced cs)
    let (day, cs) ← takeWithin 1 31 2 (trimStart cs)
    if !(skip spaced cs).isEmpty then throw .tooLong
    match ofCivil? year month day with
    | some d => return d
    | none => throw .outOfRange) := rfl

theorem skip_append (h : Gap spaced cs) (hrest : BareStart rest) :
    skip spaced (cs ++ rest) = rest := by
  cases spaced with
  | true => exact (trimStart_append h).trans (trimStart_of_bareStart hrest)
  | false =>
    obtain rfl : cs = [] := h
    rfl

theorem exists_skip (spaced : Bool) (cs : List Char) :
    ∃ gap, Gap spaced gap ∧ cs = gap ++ skip spaced cs := by
  cases spaced with
  | true => exact exists_trimStart cs
  | false => exact ⟨[], rfl, rfl⟩

theorem takeDash_eq_ok (h : takeDash cs = .ok rest) : cs = '-' :: rest := by
  unfold takeDash at h
  split at h
  · cases h
    rfl
  · cases h

theorem bareStart_dash : BareStart ('-' :: cs) := by
  rintro _ ⟨⟩
  decide

theorem digitsEnd_dash : DigitsEnd ('-' :: cs) := by
  rintro _ ⟨⟩
  decide

theorem Spelling.read_eq_ok (h : Spelling spaced d cs) : read spaced cs = .ok d := by
  obtain @⟨year, month, day, blanks, y, gap, blanks', m, gap', blanks'', k, gap'', hblanks, hy, hgap,
    hblanks', hm, hmlength, hgap', hblanks'', hk, hklength, hgap'', hcivil⟩ := h
  obtain ⟨hyear, hmonth, hday⟩ := ofCivil?_bounds hcivil
  have hlast : DigitsEnd gap'' := by
    have hnil : DigitsEnd [] := nofun
    simpa using hgap''.allBlank.digitsEnd hnil
  have hend : skip spaced gap'' = [] := by
    have hnil : BareStart [] := nofun
    simpa using skip_append hgap'' hnil
  rw [read_eq, trimStart_append hblanks, trimStart_of_bareStart hy.bareStart,
    takeYear_append hy (hgap.allBlank.digitsEnd digitsEnd_dash) hyear]
  simp only [bind, Except.bind]
  rw [skip_append hgap bareStart_dash]
  simp only [takeDash]
  rw [trimStart_append hblanks', trimStart_of_bareStart hm.bareStart,
    takeWithin_append hm hmlength (.inr (hgap'.allBlank.digitsEnd digitsEnd_dash)) hmonth]
  simp only
  rw [skip_append hgap' bareStart_dash]
  simp only
  rw [trimStart_append hblanks'', trimStart_of_bareStart hk.bareStart,
    takeWithin_append hk hklength (.inr hlast) hday]
  simp only [hend, hcivil, List.isEmpty_nil, Bool.not_true]
  rfl

theorem spelling_of_read (h : read spaced cs = .ok d) : Spelling spaced d cs := by
  rw [read_eq] at h
  obtain ⟨⟨year, rest⟩, hyear, h⟩ := bind_eq_ok.mp h
  obtain ⟨rest₁, hdash, h⟩ := bind_eq_ok.mp h
  obtain ⟨⟨month, rest₂⟩, hmonth, h⟩ := bind_eq_ok.mp h
  obtain ⟨rest₃, hdash', h⟩ := bind_eq_ok.mp h
  obtain ⟨⟨day, rest₄⟩, hday, h⟩ := bind_eq_ok.mp h
  obtain ⟨blanks, hblanks, hcs⟩ := exists_trimStart cs
  obtain ⟨y, hrest, hy⟩ := exists_of_takeYear hyear
  obtain ⟨gap, hgap, hskip⟩ := exists_skip spaced rest
  obtain ⟨blanks', hblanks', hcs'⟩ := exists_trimStart rest₁
  obtain ⟨m, hrest', hm, hmlength⟩ := exists_of_takeWithin hmonth
  obtain ⟨gap', hgap', hskip'⟩ := exists_skip spaced rest₂
  obtain ⟨blanks'', hblanks'', hcs''⟩ := exists_trimStart rest₃
  obtain ⟨k, hrest'', hk, hklength⟩ := exists_of_takeWithin hday
  obtain ⟨gap'', hgap'', hskip''⟩ := exists_skip spaced rest₄
  by_cases hend : skip spaced rest₄ = []
  · have hcivil : ofCivil? year month day = some d := by
      simp only [hend, List.isEmpty_nil, Bool.not_true, Bool.false_eq_true, if_false] at h
      split at h
      · cases h
        assumption
      · cases h
    rw [hend, List.append_nil] at hskip''
    rw [hcs, hrest, hskip, takeDash_eq_ok hdash, hcs', hrest', hskip', takeDash_eq_ok hdash', hcs'',
      hrest'', hskip'']
    exact .mk hblanks hy hgap hblanks' hm hmlength hgap' hblanks'' hk hklength hgap'' hcivil
  · have hmore : (!(skip spaced rest₄).isEmpty) = true := by simpa using hend
    simp only [hmore, if_true] at h
    cases h

/-- The reader takes the texts that spell a date, and no others. -/
theorem read_eq_ok_iff : read spaced cs = .ok d ↔ Spelling spaced d cs :=
  ⟨spelling_of_read, Spelling.read_eq_ok⟩

/-! ### The text of a date -/

theorem yearNumeral_yearText (year : Int) : YearNumeral (yearText year).toList year := by
  unfold yearText
  split
  · have hyear : year = -(year.natAbs : Int) := by omega
    rw [String.toList_append]
    conv => arg 2; rw [hyear]
    exact .minus (numeral_padded 4 _)
  · split
    · obtain ⟨n, rfl⟩ := Int.eq_ofNat_of_zero_le (show 0 ≤ year by omega)
      rw [String.toList_append]
      have hpadded := numeral_padded 0 n
      rw [toList_padded, Nat.zero_sub] at hpadded
      change YearNumeral ('+' :: (toString n).toList) n
      rw [Nat.toString_eq_ofList_toDigits, String.toList_ofList]
      exact .plus hpadded
    · have hyear : year = (year.natAbs : Int) := by omega
      conv => arg 2; rw [hyear]
      exact .plain (numeral_padded 4 _) (length_padded (by decide) (by omega)).le

/-- A date's own text spells it, whether or not blanks could stand in it. -/
theorem spelling_text (spaced : Bool) (d : Date) : Spelling spaced d d.text.toList := by
  have hgap : Gap spaced [] := by
    cases spaced with
    | true => exact nofun
    | false => rfl
  obtain ⟨-, hmonth, hday⟩ := ofCivil?_bounds d.ofCivil?_self
  have hmlength : (padded 2 d.month).toList.length ≤ 2 :=
    (length_padded (by decide) (by omega)).le
  have hklength : (padded 2 d.dayOfMonth).toList.length ≤ 2 :=
    (length_padded (by decide) (by omega)).le
  have hblanks : AllBlank [] := nofun
  have hspelled := Spelling.mk hblanks (yearNumeral_yearText d.year) hgap hblanks
    (numeral_padded 2 d.month) hmlength hgap hblanks (numeral_padded 2 d.dayOfMonth) hklength hgap
    d.ofCivil?_self
  simpa [text, monthText, String.toList_append] using hspelled

theorem read_text (spaced : Bool) (d : Date) : read spaced d.text.toList = .ok d :=
  (spelling_text spaced d).read_eq_ok

end Date

end RecurringBilling
