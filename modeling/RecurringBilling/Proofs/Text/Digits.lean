import Mathlib.Tactic.Linarith
import Mathlib.Tactic.Ring
import RecurringBilling.Text

/-! Numbers in decimal digits. Zeros in front do not change what is read, and texts of one width are
in the order of the numbers that they write. -/

namespace RecurringBilling.Text

variable {width m n : Nat} {cs ds ds' : List Char}

theorem natOfDigits_eq (cs : List Char) : natOfDigits cs = Nat.ofDigitChars 10 cs 0 := by
  simp only [natOfDigits, Nat.ofDigitChars_eq_foldl, Nat.mul_comm]

theorem le_ofDigitChars (cs : List Char) (m : Nat) : m ≤ Nat.ofDigitChars 10 cs m := by
  induction cs generalizing m with
  | nil => simp
  | cons c rest ih =>
    have hrest := ih (10 * m + (c.toNat - '0'.toNat))
    rw [Nat.ofDigitChars_cons]
    omega

theorem natOfDigits_cons (c : Char) (cs : List Char) :
    natOfDigits (c :: cs) = (c.toNat - '0'.toNat) * 10 ^ cs.length + natOfDigits cs := by
  rw [natOfDigits_eq, natOfDigits_eq, Nat.ofDigitChars_eq_foldl, List.foldl_cons,
    ← Nat.ofDigitChars_eq_foldl, Nat.ofDigitChars_eq_ofDigitChars_zero]
  ring

theorem natOfDigits_zeros (k : Nat) (cs : List Char) :
    natOfDigits (List.replicate k '0' ++ cs) = natOfDigits cs := by
  induction k with
  | zero => rfl
  | succ k ih =>
    rw [List.replicate_succ, List.cons_append, natOfDigits_cons, ih, Nat.sub_self, Nat.zero_mul,
      Nat.zero_add]

theorem toList_padded (width n : Nat) : (padded width n).toList =
    List.replicate (width - (Nat.toDigits 10 n).length) '0' ++ Nat.toDigits 10 n := by
  simp only [padded, Nat.toString_eq_ofList_toDigits, String.toList_append, String.toList_ofList,
    String.length_ofList]

theorem natOfDigits_padded (width n : Nat) : natOfDigits (padded width n).toList = n := by
  rw [toList_padded, natOfDigits_zeros, natOfDigits_eq, Nat.ofDigitChars_ten_toDigits]

theorem padded_inj : padded width m = padded width n ↔ m = n := by
  refine ⟨fun h => ?_, congrArg _⟩
  rw [← natOfDigits_padded width m, h, natOfDigits_padded]

theorem isDigit_of_mem_padded {c : Char} (h : c ∈ (padded width n).toList) : c.isDigit = true := by
  rw [toList_padded] at h
  rcases List.mem_append.mp h with h | h
  · rw [List.eq_of_mem_replicate h]
    rfl
  · exact Nat.isDigit_of_mem_toDigits (by decide) (by decide) h

theorem length_padded (hwidth : 0 < width) (h : n < 10 ^ width) :
    (padded width n).toList.length = width := by
  have hdigits := (Nat.length_toDigits_le_iff (by decide) hwidth).mpr h
  rw [toList_padded, List.length_append, List.length_replicate]
  omega

theorem natOfDigits_lt (h : ∀ c ∈ cs, c.isDigit = true) : natOfDigits cs < 10 ^ cs.length := by
  induction cs with
  | nil => exact Nat.one_pos
  | cons c rest ih =>
    obtain ⟨hc, hrest⟩ := List.forall_mem_cons.mp h
    have hdigit : c.toNat - '0'.toNat ≤ 9 := Nat.sub_le_of_le_add (Char.isDigit_iff_toNat.mp hc).2
    have hlater := ih hrest
    rw [natOfDigits_cons, List.length_cons, pow_succ]
    nlinarith

/-- A text is compared by its first part, and by the rest where that is the same. -/
theorem append_lt_append_iff {as as' bs bs' : List Char} (h : as.length = as'.length) :
    as ++ bs < as' ++ bs' ↔ as < as' ∨ as = as' ∧ bs < bs' := by
  induction as generalizing as' with
  | nil =>
    obtain rfl := List.eq_nil_of_length_eq_zero h.symm
    simp
  | cons a rest ih =>
    obtain ⟨a', rest', rfl⟩ := List.exists_cons_of_length_eq_add_one h.symm
    rw [List.cons_append, List.cons_append, List.cons_lt_cons_iff, List.cons_lt_cons_iff,
      ih (by simpa using h), List.cons.injEq]
    tauto

theorem lt_iff_natOfDigits_lt (hlength : ds.length = ds'.length) (hds : ∀ c ∈ ds, c.isDigit = true)
    (hds' : ∀ c ∈ ds', c.isDigit = true) : ds < ds' ↔ natOfDigits ds < natOfDigits ds' := by
  induction ds generalizing ds' with
  | nil =>
    obtain rfl := List.eq_nil_of_length_eq_zero hlength.symm
    simp
  | cons c rest ih =>
    obtain ⟨c', rest', rfl⟩ := List.exists_cons_of_length_eq_add_one hlength.symm
    obtain ⟨hc, hrest⟩ := List.forall_mem_cons.mp hds
    obtain ⟨hc', hrest'⟩ := List.forall_mem_cons.mp hds'
    have hlength : rest.length = rest'.length := by simpa using hlength
    have hlow := natOfDigits_lt hrest
    have hlow' := natOfDigits_lt hrest'
    have hdigit := (Char.isDigit_iff_toNat.mp hc).1
    have hdigit' := (Char.isDigit_iff_toNat.mp hc').1
    rw [List.cons_lt_cons_iff, ih hlength hrest hrest', natOfDigits_cons, natOfDigits_cons,
      hlength]
    rw [hlength] at hlow
    have hlt : c < c' ↔ c.toNat < c'.toNat := Iff.rfl
    have hsame : c = c' ↔ c.toNat = c'.toNat := Char.toNat_inj.symm
    rw [hlt, hsame]
    rcases Nat.lt_trichotomy c.toNat c'.toNat with h | h | h
    · refine iff_of_true (.inl h) ?_
      have hstep : c.toNat - '0'.toNat + 1 ≤ c'.toNat - '0'.toNat := by omega
      nlinarith
    · simp [h]
    · refine iff_of_false (by omega) ?_
      have hstep : c'.toNat - '0'.toNat + 1 ≤ c.toNat - '0'.toNat := by omega
      nlinarith

theorem padded_lt_iff (hwidth : 0 < width) (hm : m < 10 ^ width) (hn : n < 10 ^ width) :
    (padded width m).toList < (padded width n).toList ↔ m < n := by
  rw [lt_iff_natOfDigits_lt (by rw [length_padded hwidth hm, length_padded hwidth hn])
    (fun _ => isDigit_of_mem_padded) (fun _ => isDigit_of_mem_padded), natOfDigits_padded,
    natOfDigits_padded]

end RecurringBilling.Text
