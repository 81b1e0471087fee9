import RecurringBilling.Proofs.Text.Blanks
import RecurringBilling.Proofs.Text.Digits

/-! Numbers in the midst of other text. A run of digits is told from what comes after it by the first
character that is no digit, and a blank is none. -/

namespace RecurringBilling.Text

variable {n : Nat} {c : Char} {cs ds : List Char}

/-- Digits, at least one of them, that write the number. -/
structure Numeral (ds : List Char) (n : Nat) : Prop where
  ne_nil : ds ≠ []
  digits : ∀ c ∈ ds, c.isDigit = true
  value : natOfDigits ds = n

theorem isBlank_of_isDigit (h : c.isDigit = true) : isBlank c = false := by
  obtain ⟨hlow, hhigh⟩ := Char.isDigit_iff_toNat.mp h
  change 48 ≤ c.toNat at hlow
  change c.toNat ≤ 57 at hhigh
  simp only [isBlank, Bool.or_eq_false_iff, Bool.and_eq_false_iff, decide_eq_false_iff_not,
    beq_eq_false_iff_ne]
  omega

theorem not_isDigit_of_isBlank (h : isBlank c = true) : c.isDigit = false := by
  by_contra hdigit
  rw [isBlank_of_isDigit (by simpa using hdigit)] at h
  cases h

theorem Numeral.bareStart (h : Numeral ds n) : BareStart (ds ++ cs) := by
  cases ds with
  | nil => exact absurd rfl h.ne_nil
  | cons c rest =>
    rintro _ ⟨⟩
    exact isBlank_of_isDigit (h.digits c List.mem_cons_self)

theorem numeral_padded (width : Nat) (n : Nat) : Numeral (padded width n).toList n := by
  refine ⟨?_, fun _ => isDigit_of_mem_padded, natOfDigits_padded width n⟩
  rw [toList_padded]
  simp [Nat.toDigits_ne_nil]

/-- The text goes on with something else than a digit, if it goes on. -/
def DigitsEnd (cs : List Char) : Prop := ∀ c ∈ cs.head?, c.isDigit = false

theorem AllBlank.digitsEnd (hblank : AllBlank cs) (h : DigitsEnd ds) : DigitsEnd (cs ++ ds) := by
  cases cs with
  | nil => exact h
  | cons c rest =>
    rintro _ ⟨⟩
    exact not_isDigit_of_isBlank (hblank c List.mem_cons_self)

end RecurringBilling.Text
