import Mathlib.Algebra.Order.Ring.Nat
import RecurringBilling.Id

/-! Identifiers are read back from their texts. Every digit that is written has the value that it
was written for, and taking the hyphens out of the groups leaves the digits in their order. -/

namespace RecurringBilling.Id

open Text

variable {n width : Nat} {c : Char} {cs : List Char}

/-- The number that hexadecimal digits write behind those of another. -/
def hexValue? (n : Option Nat) (cs : List Char) : Option Nat :=
  cs.foldl (fun n c => do return (← n) * 16 + (← hexDigit? c)) n

theorem hexValue?_append (m : Option Nat) (cs ds : List Char) :
    hexValue? m (cs ++ ds) = hexValue? (hexValue? m cs) ds :=
  List.foldl_append

theorem hexDigit?_digitChar {d : Nat} (h : d < 16) : hexDigit? d.digitChar = some d := by
  revert d
  decide

theorem hexValue?_toDigits (n : Nat) : hexValue? (some 0) (Nat.toDigits 16 n) = some n := by
  induction n using Nat.strongRecOn with
  | ind n ih =>
    rw [Nat.toDigits_eq_if (by decide)]
    by_cases hsmall : n < 16
    · simp [hexValue?, hexDigit?_digitChar hsmall, hsmall]
    -- All digits but the last are those of a sixteenth of the number.
    · have hlast := hexDigit?_digitChar (Nat.mod_lt n (by decide : 0 < 16))
      rw [if_neg hsmall, hexValue?_append, ih (n / 16) (by omega)]
      simp [hexValue?, hlast, Nat.div_add_mod']

theorem hexValue?_zeros (k : Nat) : hexValue? (some 0) (List.replicate k '0') = some 0 := by
  induction k with
  | zero => rfl
  | succ k ih => exact ih

theorem hexValue?_hexDigits (width n : Nat) : hexValue? (some 0) (hexDigits width n) = some n := by
  rw [hexDigits, hexValue?_append, hexValue?_zeros, hexValue?_toDigits]

theorem length_hexDigits (hwidth : 0 < width) (h : n < 16 ^ width) :
    (hexDigits width n).length = width := by
  have hdigits := (Nat.length_toDigits_le_iff (by decide) hwidth).mpr h
  rw [hexDigits, List.length_append, List.length_replicate]
  omega

theorem length_digits (id : Id) : (hexDigits 32 id.value).length = 32 :=
  length_hexDigits (by decide) id.value_lt

theorem ofNat_value (id : Id) : ofNat id.value = id := by
  cases id with
  | mk value value_lt => simp [ofNat, Nat.mod_eq_of_lt value_lt]

theorem ofBare?_digits (id : Id) : ofBare? (hexDigits 32 id.value) = some id := by
  have hvalue : _ = some id.value := hexValue?_hexDigits 32 id.value
  rw [hexValue?] at hvalue
  rw [ofBare?, if_pos id.length_digits, hvalue, Option.map_some, ofNat_value]

/-! ### Hyphens -/

theorem exists_digitChar_of_mem_toDigits (h : c ∈ Nat.toDigits 16 n) :
    ∃ d < 16, c = d.digitChar := by
  induction n using Nat.strongRecOn with
  | ind n ih =>
    rw [Nat.toDigits_eq_if (by decide)] at h
    by_cases hsmall : n < 16
    · rw [if_pos hsmall, List.mem_singleton] at h
      exact ⟨n, hsmall, h⟩
    · rw [if_neg hsmall, List.mem_append, List.mem_singleton] at h
      rcases h with hfront | hlast
      · exact ih (n / 16) (by omega) hfront
      · exact ⟨n % 16, Nat.mod_lt n (by decide), hlast⟩

theorem hyphen_notMem_hexDigits (width n : Nat) : '-' ∉ hexDigits width n := by
  intro h
  rcases List.mem_append.mp h with hzero | hdigit
  · exact absurd (List.eq_of_mem_replicate hzero) (by decide)
  · obtain ⟨d, hd, heq⟩ := exists_digitChar_of_mem_toDigits hdigit
    revert d
    decide

theorem flatten_groups (ns : List Nat) (h : cs.length = ns.sum) : (groups ns cs).flatten = cs := by
  induction ns generalizing cs with
  | nil => exact (List.eq_nil_of_length_eq_zero h).symm
  | cons n ns ih =>
    have hrest : (cs.drop n).length = ns.sum := by
      rw [List.length_drop, h, List.sum_cons, Nat.add_sub_cancel_left]
    rw [groups, List.flatten_cons, ih hrest, List.take_append_drop]

/-- Without the hyphens between them, the groups follow one another. -/
theorem filter_intercalate {gs : List (List Char)} (h : '-' ∉ gs.flatten) :
    (['-'].intercalate gs).filter (· != '-') = gs.flatten := by
  have hkeep {g : List Char} (hg : '-' ∉ g) : g.filter (· != '-') = g := by
    refine List.filter_eq_self.mpr fun c hc => ?_
    have hne : c ≠ '-' := fun heq => hg (heq ▸ hc)
    simpa using hne
  induction gs with
  | nil => rfl
  | cons g gs ih =>
    rw [List.flatten_cons, List.mem_append, not_or] at h
    cases gs with
    | nil => simpa using hkeep h.1
    | cons g' gs =>
      have hhyphen : ['-'].filter (· != '-') = [] := rfl
      rw [List.intercalate_cons_cons, List.filter_append, List.filter_append, ih h.2, hkeep h.1,
        hhyphen, List.append_nil]
      exact List.flatten_cons.symm

theorem toList_text (id : Id) :
    id.text.toList = ['-'].intercalate (groups [8, 4, 4, 4, 12] (hexDigits 32 id.value)) := by
  rw [text, String.toList_intercalate, List.map_map]
  simp [Function.comp_def]

theorem filter_text (id : Id) : id.text.toList.filter (· != '-') = hexDigits 32 id.value := by
  have hflatten := flatten_groups [8, 4, 4, 4, 12] id.length_digits
  rw [toList_text, filter_intercalate, hflatten]
  rw [hflatten]
  exact hyphen_notMem_hexDigits 32 id.value

theorem length_text (id : Id) : id.text.toList.length = 36 := by
  rw [toList_text]
  simp [groups, List.intercalate, List.intersperse, id.length_digits]

theorem hyphens_text (id : Id) :
    [8, 13, 18, 23].all (fun i => id.text.toList[i]? == some '-') = true := by
  rw [toList_text]
  simp [groups, List.intercalate, List.intersperse, id.length_digits, List.getElem?_append]

theorem ofText?_text (id : Id) : ofText? id.text = some id := by
  rw [ofText?, if_neg (by rw [length_text]; decide), if_pos id.length_text, ofHyphenated?,
    if_pos ⟨id.length_text, id.hyphens_text⟩, filter_text, ofBare?_digits]

end RecurringBilling.Id
