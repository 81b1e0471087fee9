import Mathlib.Algebra.BigOperators.Group.List.Basic
import Mathlib.Tactic.NormNum
import RecurringBilling.Proofs.Decimal.Order
import RecurringBilling.Proofs.Store.Rows
import RecurringBilling.Proofs.World
import RecurringBilling.Invoicing

/-! Refunds of one transaction, one after the other. Each is checked against the amount of the
transaction alone, and what it writes replaces what the refund before it wrote, so that the refunds
together may come to more than was paid. -/

namespace RecurringBilling.Invoicing

/-- A refund that is asked for: whether it is given the row as read again or as last returned, and
what it meets. -/
structure RefundOrder where
  amount : Decimal
  reason : Option String
  rereads : Bool
  chance : Chance

namespace RefundOrder

def run (o : RefundOrder) (given : Transaction) (w : World) : Outcome Transaction × World :=
  Chances.run (fun _ => o.chance) (refund given o.amount o.reason) w

/-- Positive, covered by the transaction's amount, and not refused by the storage. -/
def isAcceptable (o : RefundOrder) (paid : Decimal) : Bool :=
  0 < o.amount && o.amount ≤ paid && o.chance.refusal.isNone

end RefundOrder

/-- The row of a transaction as the store now has it, or as it was last returned. -/
def givenRow (o : RefundOrder) (last : Transaction) (w : World) : Transaction :=
  if o.rereads then (w.store.findTransaction last.id).getD last else last

/-- Refunds in order; the amounts of those that succeed. -/
def refundAll : List RefundOrder → Transaction → World → List Decimal
  | [], _, _ => []
  | o :: rest, last, w =>
    match o.run (givenRow o last w) w with
    | (.done returned, w) => o.amount :: refundAll rest returned w
    | (_, w) => refundAll rest last w

def refundedTotal (orders : List RefundOrder) (t : Transaction) (store : Store) : ℚ :=
  ((refundAll orders t { store := store }).map Decimal.toRat).sum

variable {t given : Transaction} {w : World} {o : RefundOrder}

/-- A row is the transaction's as far as refunds are concerned. -/
def IsRowOf (t row : Transaction) : Prop := row.id = t.id ∧ row.amount = t.amount

def Holds (t : Transaction) (s : Store) : Prop :=
  ∃ row, s.findTransaction t.id = some row ∧ IsRowOf t row

theorem recordRefund_holds {s : Store} (hg : IsRowOf t given) (h : Holds t s)
    (now refundedAt : Instant) (amount : Decimal) (reason : Option String) :
    ∃ returned s', s.answer now (.recordRefund given.id amount reason refundedAt) =
      .ok (returned, s') ∧ IsRowOf t returned ∧ Holds t s' := by
  obtain ⟨row, hrow, hof⟩ := h
  rw [← hg.1] at hrow
  obtain ⟨s', ha, hs'⟩ := Store.updateTransaction_of_find
    (f := fun x =>
      { x with
        status := TransactionStatus.refunded.word
        refundedAmount := some amount
        refundedAt := some refundedAt
        refundReason := reason
        updatedAt := now }) hrow fun _ => rfl
  rw [hg.1] at hs'
  exact ⟨_, s', ha, hof, _, hs', hof⟩

theorem givenRow_isRowOf {last : Transaction} (hl : IsRowOf t last) (h : Holds t w.store) :
    IsRowOf t (givenRow o last w) := by
  obtain ⟨row, hrow, hof⟩ := h
  unfold givenRow
  split
  · simpa [hl.1, hrow] using hof
  · exact hl

theorem run_of_acceptable (ho : o.isAcceptable t.amount = true) (hg : IsRowOf t given)
    (h : Holds t w.store) :
    ∃ returned w', o.run given w = (.done returned, w') ∧ IsRowOf t returned ∧
      Holds t w'.store := by
  simp only [RefundOrder.isAcceptable, Bool.and_eq_true, decide_eq_true_eq,
    Option.isNone_iff_eq_none] at ho
  obtain ⟨⟨hpos, hle⟩, hnone⟩ := ho
  obtain ⟨returned, s, ha, hof, hs⟩ :=
    recordRefund_holds hg h o.chance.now o.chance.now o.amount o.reason
  refine ⟨returned, (w.withStore s).called _ (.ok returned), ?_, hof, hs⟩
  have hpos' : ¬ o.amount ≤ 0 := Decimal.not_le.mpr hpos
  have hle' : ¬ given.amount < o.amount := Decimal.not_lt.mpr (hg.2 ▸ hle)
  simp [RefundOrder.run, refund, hpos', hle', World.answer, hnone, ha]

theorem run_of_not_acceptable (ho : o.isAcceptable t.amount = false) (hg : IsRowOf t given) :
    ∃ e w', o.run given w = (.failed e, w') ∧ w'.store = w.store := by
  unfold RefundOrder.run refund
  by_cases hpos : o.amount ≤ 0
  · exact ⟨.nonPositiveRefund, w, by simp [hpos], rfl⟩
  · by_cases hle : given.amount < o.amount
    · exact ⟨.refundExceedsAmount o.amount given.amount, w, by simp [hpos, hle], rfl⟩
    · have hrefused : o.chance.refusal.isSome := by
        simpa [RefundOrder.isAcceptable, Decimal.not_le.mp hpos, hg.2 ▸ Decimal.not_lt.mp hle]
          using ho
      obtain ⟨e, he⟩ := Option.isSome_iff_exists.mp hrefused
      refine ⟨.storage e, w.called (.recordRefund given.id o.amount o.reason o.chance.now)
        (.error e), ?_, rfl⟩
      simp [hpos, hle, World.answer, he]

/-- Whether a refund succeeds does not depend on the refunds before it. -/
theorem refundAll_eq (orders : List RefundOrder) {last : Transaction} (hl : IsRowOf t last)
    (h : Holds t w.store) :
    refundAll orders last w =
      (orders.filter (·.isAcceptable t.amount)).map (·.amount) := by
  induction orders generalizing last w with
  | nil => rfl
  | cons o rest ih =>
    have hg : IsRowOf t (givenRow o last w) := givenRow_isRowOf hl h
    cases ho : o.isAcceptable t.amount with
    | true =>
      obtain ⟨returned, w', hrun, hr, hw⟩ := run_of_acceptable ho hg h
      simp only [refundAll, hrun, ih hr hw, List.filter_cons, ho, if_true, List.map_cons]
    | false =>
      obtain ⟨e, w', hrun, hw⟩ := run_of_not_acceptable (w := w) ho hg
      simp only [refundAll, hrun, ih hl (hw ▸ h), List.filter_cons, ho, Bool.false_eq_true,
        if_false]

/-- The refunds of a transaction stay within its amount exactly if those of them that are acceptable
one by one add up to no more than that. -/
theorem refundedTotal_le_amount_iff {store : Store}
    (ht : store.findTransaction t.id = some t) (orders : List RefundOrder) :
    refundedTotal orders t store ≤ t.amount.toRat ↔
      ((orders.filter (·.isAcceptable t.amount)).map (·.amount.toRat)).sum ≤ t.amount.toRat := by
  have h := refundAll_eq (w := { store := store }) orders ⟨rfl, rfl⟩ ⟨t, ht, rfl, rfl⟩
  simp [refundedTotal, h, Function.comp_def]

/-! A payment of a hundred of which sixty is refunded twice. -/

def payment : Transaction :=
  { invoiceId := .ofNat 1, gateway := "stripe", transactionId := none
    amount := .hundred, currency := "USD", status := "success", gatewayResponse := none
    metadata := none, id := .ofNat 2, refundedAmount := none, refundedAt := none
    refundReason := none, createdAt := .first, updatedAt := .first }

def refundOfSixty : RefundOrder :=
  { amount := .whole 60 (by decide), reason := none, rereads := true, chance := { now := .first } }

theorem refundedTotal_le_amount_iff_payment :
    Store.findTransaction { transactions := [payment] } payment.id = some payment ∧
      (refundedTotal [refundOfSixty, refundOfSixty] payment { transactions := [payment] } ≤
          payment.amount.toRat ↔
        (([refundOfSixty, refundOfSixty].filter (·.isAcceptable payment.amount)).map
          (·.amount.toRat)).sum ≤ payment.amount.toRat) :=
  ⟨rfl, refundedTotal_le_amount_iff rfl _⟩

theorem refundedTotal_gt_amount :
    ¬ refundedTotal [refundOfSixty, refundOfSixty] payment { transactions := [payment] } ≤
      payment.amount.toRat := by
  have h : refundAll [refundOfSixty, refundOfSixty] payment
      { store := { transactions := [payment] } } =
        [refundOfSixty.amount, refundOfSixty.amount] := by decide +kernel
  rw [refundedTotal, h]
  norm_num [Decimal.toRat, refundOfSixty, payment, Decimal.hundred, Decimal.whole]

/-- Whatever was paid, it can be refunded in full as often as one likes. -/
theorem exists_refundedTotal_gt {store : Store} (ht : store.findTransaction t.id = some t)
    (hpos : 0 < t.amount) (n : ℕ) :
    ∃ orders, refundedTotal orders t store = n * t.amount.toRat := by
  let full : RefundOrder :=
    { amount := t.amount, reason := none, rereads := false, chance := { now := .first } }
  have hfull : full.isAcceptable t.amount = true := by
    simp [full, RefundOrder.isAcceptable, hpos, Decimal.le_iff_toRat_le]
  refine ⟨List.replicate n full, ?_⟩
  have h := refundAll_eq (w := { store := store }) (List.replicate n full) ⟨rfl, rfl⟩
    ⟨t, ht, rfl, rfl⟩
  simp [refundedTotal, h, hfull, full]

end RecurringBilling.Invoicing
