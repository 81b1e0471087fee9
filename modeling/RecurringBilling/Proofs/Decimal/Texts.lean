import RecurringBilling.Decimal.Text
import RecurringBilling.Proofs.Text.Numerals

/-! Printed decimals are read back. The digits of a printed number fit at every step, as those of
the whole number do, so that the reader neither rounds nor gives up; all it loses is the minus sign
of a zero. -/

namespace RecurringBilling.Decimal

open Text

variable {negative : Bool} {r : Reading} {units scale : Nat} {ds rest : List Char}

theorem digit?_of_isDigit {c : Char} (h : c.isDigit = true) :
    digit? c = some (c.toNat - '0'.toNat) := if_pos h

/-- The reading after some more digits, none of which was surplus. -/
def Reading.after (r : Reading) (ds : List Char) : Reading where
  units := Nat.ofDigitChars 10 ds r.units
  scale := if r.pointed then r.scale + ds.length else r.scale
  pointed := r.pointed
  started := r.started || !ds.isEmpty

theorem readDigits_cons {c : Char} {d : Nat} (hd : digit? c = some d)
    (hunits : r.units * 10 + d < unitBound) (hscale : r.pointed = true → r.scale < 28) :
    readDigits negative r (c :: rest) = readDigits negative
      ⟨r.units * 10 + d, if r.pointed then r.scale + 1 else r.scale, r.pointed, true⟩ rest := by
  have hroom : (r.pointed && (r.scale == 28 || decide (unitBound ≤ r.units * 10 + d))) = false := by
    cases hpointed : r.pointed with
    | false => rfl
    | true =>
      have hne : r.scale ≠ 28 := (hscale hpointed).ne
      simp [hne, hunits]
  simp only [readDigits, hd]
  rw [if_neg (ne_true_of_eq_false hroom), if_neg (Nat.not_le.mpr hunits)]

theorem readDigits_append (hds : ∀ c ∈ ds, c.isDigit = true)
    (hunits : Nat.ofDigitChars 10 ds r.units < unitBound)
    (hscale : r.pointed = true → r.scale + ds.length ≤ 28) :
    readDigits negative r (ds ++ rest) = readDigits negative (r.after ds) rest := by
  induction ds generalizing r with
  | nil => simp [Reading.after]
  | cons c ds ih =>
    obtain ⟨hc, hds⟩ := List.forall_mem_cons.mp hds
    rw [Nat.ofDigitChars_cons, Nat.mul_comm 10] at hunits
    have hgrows := le_ofDigitChars ds (r.units * 10 + (c.toNat - '0'.toNat))
    rw [List.length_cons] at hscale
    rw [List.cons_append, readDigits_cons (digit?_of_isDigit hc) (hgrows.trans_lt hunits)
      fun hpointed => by have hroom := hscale hpointed; omega]
    rw [ih hds hunits]
    · cases hpointed : r.pointed <;>
        simp [Reading.after, hpointed, Nat.ofDigitChars_cons, Nat.mul_comm 10, Nat.add_assoc,
          Nat.add_comm 1]
    · intro (hpointed : r.pointed = true)
      have hroom := hscale hpointed
      change (if r.pointed = true then r.scale + 1 else r.scale) + ds.length ≤ 28
      rw [if_pos hpointed]
      omega

theorem readDigits_point (h : r.pointed = false) :
    readDigits negative r ('.' :: rest) = readDigits negative { r with pointed := true } rest := by
  have hdigit : digit? '.' = none := rfl
  simp only [readDigits, hdigit]
  rw [if_pos (by simp [h])]

/-- The units of the whole part are a prefix of all units, and the places after it are the rest. -/
theorem readDigits_unsignedText (hunits : units < unitBound) (hscale : scale ≤ 28) :
    readDigits negative {} (unsignedText units scale).toList =
      ofUnits? (signed negative units) scale := by
  have hdigits (n : Nat) : ∀ c ∈ Nat.toDigits 10 n, c.isDigit = true := fun _ hc =>
    Nat.isDigit_of_mem_toDigits (by decide) (by decide) hc
  have hwhole (n : Nat) (hn : n < unitBound) (rest : List Char) :
      readDigits negative {} (Nat.toDigits 10 n ++ rest) =
        readDigits negative ⟨n, 0, false, true⟩ rest := by
    rw [readDigits_append (hdigits n) (by rwa [Nat.ofDigitChars_ten_toDigits]) (by simp)]
    simp [Reading.after, Nat.ofDigitChars_ten_toDigits,
      List.isEmpty_eq_false_iff.mpr Nat.toDigits_ne_nil]
  unfold unsignedText
  split
  · rename_i hzero
    have hread := hwhole units hunits []
    rw [List.append_nil] at hread
    rw [Nat.toString_eq_ofList_toDigits, String.toList_ofList, hread, hzero]
    rfl
  · rename_i hpos
    have hle : units / pow10 scale ≤ units := Nat.div_le_self _ _
    have hwidth : (padded scale (units % pow10 scale)).toList.length = scale :=
      length_padded (by omega) (Nat.mod_lt _ (pow10_pos scale))
    have hvalue : Nat.ofDigitChars 10 (padded scale (units % pow10 scale)).toList
        (units / pow10 scale) = units := by
      rw [Nat.ofDigitChars_eq_ofDigitChars_zero, ← natOfDigits_eq, natOfDigits_padded, hwidth]
      exact Nat.div_add_mod units (10 ^ scale)
    rw [String.toList_append, String.toList_append, Nat.toString_eq_ofList_toDigits,
      String.toList_ofList, List.append_assoc, hwhole _ (hle.trans_lt hunits)]
    change readDigits negative _ ('.' :: (padded scale (units % pow10 scale)).toList) = _
    rw [readDigits_point rfl, ← List.append_nil (padded scale _).toList,
      readDigits_append (fun _ => isDigit_of_mem_padded) (by rwa [hvalue])
        fun _ => by simpa [hwidth] using hscale]
    simp [Reading.after, hvalue, hwidth, readDigits]

theorem ofUnits?_self (d : Decimal) : ofUnits? d.units d.scale = some (d.withZeroSign false) := by
  rw [ofUnits?, dif_pos ⟨d.units_lt, d.scale_le⟩]
  rfl

theorem withZeroSign_eq_self {d : Decimal} (h : d.isNegativeZero = false) :
    d.withZeroSign false = d := by
  cases d
  cases h
  rfl

@[simp] theorem withZeroSign_eq_self_iff {d : Decimal} :
    d.withZeroSign false = d ↔ d.isNegativeZero = false :=
  ⟨fun h => h ▸ rfl, withZeroSign_eq_self⟩

theorem isDigit_of_head (units scale : Nat) :
    ∀ c ∈ (unsignedText units scale).toList.head?, c.isDigit = true := by
  have hhead (n : Nat) (rest : List Char) :
      ∀ c ∈ (Nat.toDigits 10 n ++ rest).head?, c.isDigit = true := by
    intro c hc
    cases h : Nat.toDigits 10 n with
    | nil => exact absurd h Nat.toDigits_ne_nil
    | cons d ds =>
      rw [h] at hc
      obtain rfl : d = c := by simpa using hc
      exact Nat.isDigit_of_mem_toDigits (by decide) (by decide) (h ▸ List.mem_cons_self)
  unfold unsignedText
  split
  · simpa [Nat.toString_eq_ofList_toDigits] using hhead units []
  · rw [String.toList_append, String.toList_append, Nat.toString_eq_ofList_toDigits,
      String.toList_ofList, List.append_assoc]
    exact hhead _ _

theorem readPlain?_of_digit {c : Char} (hc : c.isDigit = true) :
    readPlain? (c :: rest) = readDigits false {} (c :: rest) := by
  unfold readPlain?
  split
  · rename_i h
    cases h
    exact absurd hc (by decide)
  · rename_i h
    cases h
    exact absurd hc (by decide)
  · rfl

theorem readPlain?_unsignedText (hunits : units < unitBound) (hscale : scale ≤ 28) :
    readPlain? (unsignedText units scale).toList = ofUnits? units scale := by
  change _ = ofUnits? (signed false units) scale
  rw [← readDigits_unsignedText hunits hscale]
  cases h : (unsignedText units scale).toList with
  | nil => rfl
  | cons c rest => exact readPlain?_of_digit (isDigit_of_head units scale c (by rw [h]; rfl))

/-- A printed decimal is read back, but for the minus sign of a zero. -/
theorem readPlain?_text (d : Decimal) : readPlain? d.text.toList = some (d.withZeroSign false) := by
  rw [← ofUnits?_self, text, String.toList_append]
  by_cases hsign : (decide (d.units < 0) || d.isNegativeZero) = true
  · have hunits : signed true d.units.natAbs = d.units := by
      simp only [Bool.or_eq_true, decide_eq_true_eq] at hsign
      rcases hsign with hneg | hzero
      · simp only [signed, if_true]
        omega
      · rw [d.units_eq_zero hzero]
        rfl
    rw [if_pos hsign]
    change readDigits true {} (unsignedText d.units.natAbs d.scale).toList = _
    rw [readDigits_unsignedText d.units_lt d.scale_le, hunits]
  · have hunits : (d.units.natAbs : Int) = d.units := by
      simp only [Bool.or_eq_true, decide_eq_true_eq, not_or] at hsign
      omega
    rw [if_neg hsign, String.toList_empty, List.nil_append,
      readPlain?_unsignedText d.units_lt d.scale_le, hunits]

theorem ofText?_text (d : Decimal) : ofText? d.text = some (d.withZeroSign false) := by
  rw [ofText?, readPlain?_text]
  rfl

/-! ### Blanks around a printed decimal -/

theorem isBlank_of_mem_text {d : Decimal} {c : Char} (hc : c ∈ d.text.toList) :
    isBlank c = false := by
  have hdigits {n : Nat} (hc : c ∈ Nat.toDigits 10 n) : isBlank c = false :=
    isBlank_of_isDigit (Nat.isDigit_of_mem_toDigits (by decide) (by decide) hc)
  rw [text, String.toList_append, List.mem_append] at hc
  rcases hc with hc | hc
  · split at hc
    · obtain rfl : c = '-' := by simpa using hc
      decide
    · simp at hc
  · unfold unsignedText at hc
    split at hc
    · exact hdigits (by simpa [Nat.toString_eq_ofList_toDigits] using hc)
    · rw [String.toList_append, String.toList_append, List.mem_append, List.mem_append] at hc
      rcases hc with (hc | hc) | hc
      · exact hdigits (by simpa [Nat.toString_eq_ofList_toDigits] using hc)
      · obtain rfl : c = '.' := by simpa using hc
        decide
      · exact isBlank_of_isDigit (isDigit_of_mem_padded hc)

theorem bareEnds_text (d : Decimal) : BareEnds d.text.toList where
  start := fun _ hc => isBlank_of_mem_text (List.mem_of_mem_head? hc)
  last := fun _ hc => isBlank_of_mem_text (List.mem_reverse.mp (List.mem_of_mem_head? hc))

/-- The text is the decimal as it is printed, with blanks around it. -/
def IsPrinted (raw : String) (d : Decimal) : Prop :=
  ∃ left right, AllBlank left ∧ AllBlank right ∧ raw.toList = left ++ d.text.toList ++ right

theorem IsPrinted.trim_eq {raw : String} {d : Decimal} (h : IsPrinted raw d) :
    Text.trim raw = d.text :=
  trim_eq_iff.mpr ⟨d.bareEnds_text, h⟩

end RecurringBilling.Decimal
