import RecurringBilling.Calendar.Text
import RecurringBilling.Proofs.Calendar.Windows
import RecurringBilling.Proofs.Text.Digits

/-! Months as texts. Each month has a text of its own, and as long as a year has four digits the
texts are in the order of the months. -/

namespace RecurringBilling

namespace Calendar

variable {count count' year : Int}

/-- The text of a month, for months counted through from year 0. -/
def monthLabel (count : Int) : String :=
  yearText (count / 12) ++ "-" ++ Text.padded 2 ((count % 12).toNat + 1)

/-- The year that a text with an optional sign stands for. -/
def yearRead : List Char → Int
  | '-' :: ds => -(Text.natOfDigits ds : Int)
  | '+' :: ds => Text.natOfDigits ds
  | ds => Text.natOfDigits ds

theorem yearRead_of_isDigit {ds : List Char} (h : ∀ c ∈ ds, c.isDigit = true) :
    yearRead ds = Text.natOfDigits ds := by
  unfold yearRead
  split
  · exact absurd (h '-' List.mem_cons_self) (by decide)
  · exact absurd (h '+' List.mem_cons_self) (by decide)
  · rfl

theorem yearRead_yearText (year : Int) : yearRead (yearText year).toList = year := by
  unfold yearText
  split
  · rw [String.toList_append]
    change -(Text.natOfDigits (Text.padded 4 year.natAbs).toList : Int) = year
    rw [Text.natOfDigits_padded]
    omega
  · split
    · obtain ⟨n, rfl⟩ := Int.eq_ofNat_of_zero_le (show 0 ≤ year by omega)
      rw [String.toList_append]
      change (Text.natOfDigits (toString n).toList : Int) = n
      rw [Nat.toString_eq_ofList_toDigits, String.toList_ofList, Text.natOfDigits_eq,
        Nat.ofDigitChars_ten_toDigits]
    · rw [yearRead_of_isDigit fun _ => Text.isDigit_of_mem_padded, Text.natOfDigits_padded]
      omega

theorem yearText_inj {year year' : Int} (h : yearText year = yearText year') : year = year' := by
  rw [← yearRead_yearText year, h, yearRead_yearText]

theorem toList_monthLabel (count : Int) : (monthLabel count).toList =
    (yearText (count / 12)).toList ++ '-' :: (Text.padded 2 ((count % 12).toNat + 1)).toList := by
  rw [monthLabel, String.toList_append, String.toList_append, List.append_assoc]
  rfl

theorem length_paddedMonth (count : Int) :
    (Text.padded 2 ((count % 12).toNat + 1)).toList.length = 2 :=
  Text.length_padded (by decide) (by omega)

theorem monthLabel_inj : monthLabel count = monthLabel count' ↔ count = count' := by
  refine ⟨fun h => ?_, congrArg _⟩
  have hlist := congrArg String.toList h
  rw [toList_monthLabel, toList_monthLabel] at hlist
  obtain ⟨hyear, hmonth⟩ := List.append_inj' hlist (by simp only [List.length_cons,
    length_paddedMonth])
  have hyear := yearText_inj (String.toList_injective hyear)
  have hmonth := Text.padded_inj.mp (String.toList_injective (List.cons.inj hmonth).2)
  omega

theorem yearText_of_mem (h : 0 ≤ year ∧ year ≤ 9999) :
    yearText year = Text.padded 4 year.natAbs := by
  rw [yearText, if_neg (by omega), if_neg (by omega)]

/-- The texts of months are in the order of the months, for years of four digits. -/
theorem monthLabel_lt_iff (h : 0 ≤ count / 12 ∧ count / 12 ≤ 9999)
    (h' : 0 ≤ count' / 12 ∧ count' / 12 ≤ 9999) :
    monthLabel count < monthLabel count' ↔ count < count' := by
  have hyear : (Text.padded 4 (count / 12).natAbs).toList.length = 4 :=
    Text.length_padded (by decide) (by omega)
  have hyear' : (Text.padded 4 (count' / 12).natAbs).toList.length = 4 :=
    Text.length_padded (by decide) (by omega)
  have hdash : ¬ '-' < '-' := by decide
  change (monthLabel count).toList < (monthLabel count').toList ↔ _
  rw [toList_monthLabel, toList_monthLabel, yearText_of_mem h, yearText_of_mem h',
    Text.append_lt_append_iff (hyear.trans hyear'.symm), List.cons_lt_cons_iff,
    Text.padded_lt_iff (by decide) (by omega) (by omega),
    Text.padded_lt_iff (by decide) (by omega) (by omega), String.toList_inj, Text.padded_inj]
  simp only [hdash, false_or, true_and]
  omega

end Calendar

open Calendar

namespace Date

theorem monthText_eq (d : Date) : d.monthText = monthLabel d.monthCount := by
  obtain ⟨hyear, hmonth⟩ := d.monthCount_eq
  rw [monthText, monthLabel, hyear, hmonth]

end Date

end RecurringBilling
