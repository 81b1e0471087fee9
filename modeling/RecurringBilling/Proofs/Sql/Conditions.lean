import RecurringBilling.Proofs.Sql.Assignments
import RecurringBilling.Proofs.Store.Accounts

/-! Which rows a statement is about. A row meets a condition as the database judges it: with the
parameters as they are bound, and without any comparison that a null could meet. -/

namespace RecurringBilling

namespace Value

def Equals : Value → Value → Prop
  | .null, _ => False
  | .decimal a, .decimal b => a.Same b
  | a, b => a = b

def Before : Value → Value → Prop
  | .instant a, .instant b => a < b
  | .int a, .int b => a < b
  | .decimal a, .decimal b => a < b
  | _, _ => False

def AtMost (a b : Value) : Prop := a.Before b ∨ a.Equals b

def IsOneOf : Value → Value → Prop
  | .text s, .texts ss => s ∈ ss
  | .id i, .ids is => i ∈ is
  | _, _ => False

end Value

namespace Sql

open Calendar

/-- Whether the row meets the condition. -/
def Condition.Holds (row : Ref → Value) : Condition → Prop
  | equals c v => (row c).Equals (stored v)
  | oneOf c vs => (row c).IsOneOf (stored vs)
  | less c v => (row c).Before (stored v)
  | lessEq c v => (row c).AtMost (stored v)
  | greater c v => (stored v).Before (row c)
  | greaterEq c v => (stored v).AtMost (row c)
  | sumLessEq c added bound =>
    ∃ sum, (row c).sum? (stored added) = some sum ∧ sum.AtMost (stored bound)
  | isNull c => row c = .null
  | and a b => a.Holds row ∧ b.Holds row
  | or a b => a.Holds row ∨ b.Holds row

/-- Whether a row of what the statement reads or updates is one that it is about. -/
def Statement.Picks (row : Ref → Value) : Statement → Prop
  | select s => s.condition.Holds row
  | update u => u.condition.Holds row
  | insert _ => False

/-- The row of a single table. -/
def rowOf (t : Table) (cells : Cells) (c : Ref) : Value :=
  if c.table = t then cells.value c.column else .null

/-- The cut stays between the start of 2000 and the instant, so that it can be represented. -/
theorem wholeMicros_nanos (t : Instant) :
    (wholeMicros t).nanos = t.nanos - (t.nanos - 10957 * nanosPerDay).tmod 1000 := by
  have hcut : 10957 * nanosPerDay + (t.nanos - 10957 * nanosPerDay).tdiv 1000 * 1000 =
      t.nanos - (t.nanos - 10957 * nanosPerDay).tmod 1000 := by
    have := Int.tdiv_mul_add_tmod (t.nanos - 10957 * nanosPerDay) 1000
    omega
  have hstart : firstDay * nanosPerDay ≤ 10957 * nanosPerDay ∧
      10957 * nanosPerDay < (lastDay + 1) * nanosPerDay := by decide
  have hrest : ∀ n : Int, (0 ≤ n → 0 ≤ n.tmod 1000 ∧ n.tmod 1000 ≤ n) ∧
      (n ≤ 0 → n ≤ n.tmod 1000 ∧ n.tmod 1000 ≤ 0) := by
    intro n
    have := Int.tmod_eq_emod (a := n) (b := 1000)
    split at this <;> omega
  have hfirst := t.first_le
  have hend := t.lt_end
  have := hrest (t.nanos - 10957 * nanosPerDay)
  rw [wholeMicros, hcut, Instant.ofNanos?, dif_pos (by omega)]
  rfl

/-- An instant is bound as it is if and only if it is one of whole microseconds. -/
theorem wholeMicros_eq_iff {t : Instant} : wholeMicros t = t ↔ (1000 : Int) ∣ t.nanos := by
  have hstart : (1000 : Int) ∣ 10957 * nanosPerDay := by decide
  have hsame : wholeMicros t = t ↔ (wholeMicros t).nanos = t.nanos := by
    generalize wholeMicros t = s
    cases s
    cases t
    simp
  have hshift : (1000 : Int) ∣ t.nanos ↔ (1000 : Int) ∣ t.nanos - 10957 * nanosPerDay :=
    Int.dvd_iff_dvd_of_dvd_sub (by rw [Int.sub_sub_self]; exact hstart)
  rw [hsame, wholeMicros_nanos, hshift, Int.dvd_iff_tmod_eq_zero]
  omega
theorem wholeMicros_midnight (d : Date) : wholeMicros (Instant.midnight d) = Instant.midnight d :=
  wholeMicros_eq_iff.mpr (Int.dvd_trans (by decide) (Int.dvd_mul_left d.day nanosPerDay))

theorem atMost_instant_iff {a b : Instant} : (Value.instant a).AtMost (.instant b) ↔ a ≤ b := by
  have hsame : (Value.instant a).Equals (.instant b) ↔ a.nanos = b.nanos := by
    cases a
    cases b
    simp [Value.Equals]
  show a.nanos < b.nanos ∨ _ ↔ a.nanos ≤ b.nanos
  rw [hsame]
  omega

@[simp] theorem value_status (r : Subscription) : r.cells.value "status" = .text r.status := rfl

@[simp] theorem value_endsAt (r : Subscription) :
    r.cells.value "ends_at" = .ofOption .instant r.endsAt := rfl

@[simp] theorem value_autoRenew (r : Subscription) :
    r.cells.value "auto_renew" = .bool r.autoRenew := rfl

@[simp] theorem value_deletedAt (r : Subscription) :
    r.cells.value "deleted_at" = .ofOption .instant r.deletedAt := rfl

/-- The statement that lists what ends on a date is about the rows that the store lists. -/
theorem picks_expiring_iff {date : Date} {start fin : Instant}
    (hb : date.bounds? = some (start, fin)) (renews : Option Bool) (r : Subscription) :
    (expiring start fin renews).Picks (rowOf .subscriptions r.cells) ↔
      r.EndsOn date ∧ ∀ b ∈ renews, r.autoRenew = b := by
  obtain ⟨hstart, hfin⟩ : wholeMicros start = start ∧ wholeMicros fin = fin := by
    by_cases hlast : date.day < lastDay
    · obtain ⟨next, hnext⟩ := Date.exists_next hlast
      rw [Date.bounds?_eq_midnights hnext] at hb
      cases hb
      exact ⟨wholeMicros_midnight date, wholeMicros_midnight next⟩
    · simp [Date.bounds?_of_not_lt hlast] at hb
  have hdeleted : Value.ofOption Value.instant r.deletedAt = .null ↔ r.isLive = true := by
    unfold Subscription.isLive
    cases r.deletedAt <;> simp [Value.ofOption]
  have hends : (Value.instant start).AtMost (.ofOption .instant r.endsAt) ∧
      (Value.ofOption Value.instant r.endsAt).Before (.instant fin) ↔
      ∃ t, r.endsAt = some t ∧ t.date = date := by
    cases r.endsAt with
    | none => simp [Value.ofOption, Value.Before]
    | some t => simp [Value.ofOption, atMost_instant_iff, Value.Before, Date.mem_bounds?_iff hb]
  have hlive : (live .subscriptions (.and (.and (statusIs .active)
      (.greaterEq (sub "ends_at") (.instant start))) (.less (sub "ends_at") (.instant fin)))).Holds
      (rowOf .subscriptions r.cells) ↔ r.EndsOn date := by
    simp only [live, statusIs, sub, Condition.Holds, rowOf, if_true, value_status, value_endsAt,
      value_deletedAt, stored, hstart, hfin, Value.Equals, Value.text.injEq, hdeleted]
    constructor
    · rintro ⟨⟨⟨hstatus, hle⟩, hlt⟩, hlive⟩
      exact ⟨hlive, hstatus, hends.mp ⟨hle, hlt⟩⟩
    · rintro ⟨hlive, hstatus, hday⟩
      exact ⟨⟨⟨hstatus, (hends.mpr hday).1⟩, (hends.mpr hday).2⟩, hlive⟩
  cases renews with
  | none => simpa [Statement.Picks, expiring, selectOf] using hlive
  | some b =>
    simp only [Statement.Picks, expiring, selectOf, Condition.Holds, hlive]
    simp [rowOf, sub, stored, Value.Equals]

end Sql

end RecurringBilling
