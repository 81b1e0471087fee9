import RecurringBilling.Proofs.Sql.Brackets

/-! The requests that take a transaction are bracketed by it. -/

namespace RecurringBilling.Sql

open Talk

namespace Talk

variable {α γ σ : Type}

theorem orderly_forIn {step : γ → σ → Talk (ForInStep σ)} (h : ∀ a b, Orderly (step a b))
    (l : List γ) (b : σ) : Orderly (forIn l b step) := by
  induction l generalizing b with
  | nil => exact orderly_pure b
  | cons a l ih =>
    rw [List.forIn_cons]
    refine (h a b).bind fun next => ?_
    cases next with
    | done b => exact orderly_pure b
    | yield b => exact ih b

theorem Orderly.discard {t : Talk α} (h : Orderly t) : Orderly (do let _ ← t) :=
  h.bind fun _ => orderly_pure _

end Talk

/-- The tables whose rows are looked up by slug. -/
theorem head?_columns_of_slug {t : Table} (h : t = .features ∨ t = .packages) :
    t.columns.head? = some Table.key ∧ ∀ column ∈ t.columns.tail, column.name ≠ "id" := by
  rcases h with rfl | rfl <;>
    simp [Table.columns, Table.ownColumns, Table.stamps, Table.key, Table.createdAt,
      Table.deletedAt]

theorem orderly_lockBySlug {t : Table} (h : t = .features ∨ t = .packages) (slug : String) :
    Orderly (row? (lockBySlug t slug) fun r => (r.cells t).id "id") := by
  obtain ⟨hkey, hother⟩ := head?_columns_of_slug h
  refine orderly_row? (fun r => ?_) rfl
  rw [← isReadable_id_iff hkey hother]
  simp [lockBySlug, Statement.returned]

section

variable {α : Type} {t : Table} {read : ResultRow → Cells.Reading α}
  (hread : ∀ r, (∃ a, read r = .ok a) ↔ ∀ c ∈ allColumns t, c.IsReadable r)

include hread

theorem orderly_update (id : Id) (assignments : List Assignment) :
    Orderly (row (.update (updateOf t id assignments)) read) := by
  refine orderly_row hread ?_
  cases t <;> rfl

theorem orderly_insert (rows : List Cells) :
    Orderly (row (.insert (insertOf t rows)) read) := by
  refine orderly_row hread ?_
  cases t <;> rfl

theorem bracketed_upsert (ht : t = .features ∨ t = .packages) (now : Instant) (slug : String)
    (definition : Cells) (x : Exchange) : ∃ sent data,
      ((upsert t now slug definition read).outcome x).2.sent = sent.reverse ++ x.sent ∧
        Bracketed x.replies sent data ((upsert t now slug definition read).outcome x).1.isOk := by
  refine bracketed_transaction ((orderly_lockBySlug ht slug).bind fun found => ?_) x
  cases found with
  | some id => exact orderly_update hread id _
  | none => exact orderly_insert hread [definition]

end

theorem orderly_syncGrant (now : Instant) (new : NewGrant) :
    Orderly (affected (syncGrant now new)) :=
  orderly_affected rfl rfl

theorem orderly_insertItems (id : Id) (items : List ItemSeed) :
    Orderly (insertItems id items) := by
  unfold insertItems
  split
  · exact (orderly_affected rfl rfl).discard
  · exact orderly_pure ()

theorem orderly_insertWithItems (new : NewSubscription) (items : List ItemSeed) :
    Orderly (insertWithItems new items) :=
  (orderly_insert readSubscription_iff [new.cells]).bind fun created =>
    (orderly_insertItems created.id items).bind fun _ => orderly_pure created

theorem orderly_updateSubscription (id : Id) (changes : SubscriptionChanges) :
    Orderly (updateSubscription id changes) :=
  orderly_update readSubscription_iff id _

/-- Whatever the replies are, a request that takes a transaction is bracketed by it. -/
theorem bracketed_conversation (now : Instant) {r : Request} (h : r.isTransactional = true)
    (x : Exchange) : ∃ sent data,
      ((conversation now r).outcome x).2.sent = sent.reverse ++ x.sent ∧
        Bracketed x.replies sent data ((conversation now r).outcome x).1.isOk := by
  cases r with
  | upsertFeature new => exact bracketed_upsert readFeature_iff (.inl rfl) now _ _ x
  | upsertPackage new => exact bracketed_upsert readPackage_iff (.inr rfl) now _ _ x
  | syncFeatures packageId grants =>
    refine bracketed_transaction (Orderly.discard (orderly_forIn (fun new _ => ?_) _ _)) x
    exact (orderly_syncGrant now new).bind fun _ => orderly_pure _
  | createSubscription new items =>
    exact bracketed_transaction (orderly_insertWithItems new items) x
  | switchPlan id changes new items =>
    refine bracketed_transaction ((orderly_updateSubscription id changes).bind fun old => ?_) x
    exact (orderly_insertWithItems new items).bind fun created => orderly_pure (old, created)
  | _ => cases h

def someSubscription : NewSubscription :=
  { subscriberType := "user", subscriberId := .ofNat 1, packageId := .ofNat 0, status := "active",
    startsAt := .first, endsAt := none, trialEndsAt := none, cancelledAt := none,
    cancellationReason := none, autoRenew := true, metadata := none }

/-- The row of a subscription comes back without its status. -/
def withoutStatus : Exchange :=
  let row : Subscription :=
    { someSubscription with id := .ofNat 5, createdAt := .first, updatedAt := .first,
                            deletedAt := none }
  { clock := .first
    replies := [.rows [{ tables := [(.subscriptions, ("status", .null) :: row.cells)] }] 0] }

theorem bracketed_withoutStatus :
    (Request.createSubscription someSubscription []).isTransactional = true ∧ ∃ sent data,
      ((conversation .first (.createSubscription someSubscription [])).outcome
          withoutStatus).2.sent = sent.reverse ++ withoutStatus.sent ∧
        Bracketed withoutStatus.replies sent data ((conversation .first
          (.createSubscription someSubscription [])).outcome withoutStatus).1.isOk :=
  ⟨rfl, bracketed_conversation .first rfl withoutStatus⟩

/-- An answer without an error and with a row is not enough for a commit: the row has a column that
may not be null, and is. -/
theorem rolled_back_withoutStatus :
    (∃ insertion rows, answerOf withoutStatus.replies[0]? = some rows ∧ rows ≠ [] ∧
      ((conversation .first (.createSubscription someSubscription [])).outcome
        withoutStatus).2.sent.reverse = [.begin, .statement insertion, .rollback]) ∧
      ((conversation .first (.createSubscription someSubscription [])).outcome
        withoutStatus).1 = .error (.error .unexpectedNull) :=
  ⟨⟨_, _, rfl, List.cons_ne_nil _ _, rfl⟩, rfl⟩

end RecurringBilling.Sql
