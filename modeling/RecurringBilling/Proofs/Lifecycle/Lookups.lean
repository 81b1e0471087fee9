import RecurringBilling.Proofs.Lifecycle.Validity
import RecurringBilling.Proofs.Store.Rows

/-! What the lookups of a subscriber find, against what the subscriptions say of themselves. The
present subscription is looked up by its status alone, and one that can be resumed by its status and
an end that is still to come; whether a subscription is valid or resumable depends on its dates. -/

namespace RecurringBilling

variable {t : Instant} {r : Subscription} {text : String}

theorem head?_sortedBy_eq_none {α : Type} {before : α → α → Bool} {rows : List α} :
    (sortedBy before rows).head? = none ↔ ∀ row, row ∉ rows := by
  simp only [List.head?_eq_none_iff, List.eq_nil_iff_forall_not_mem, mem_sortedBy]

theorem mem_of_head?_sortedBy {α : Type} {before : α → α → Bool} {rows : List α} {row : α}
    (h : (sortedBy before rows).head? = some row) : row ∈ rows :=
  mem_sortedBy.mp (List.mem_of_head? h)

theorem Instant.lt_iff_le_and_ne {t t' : Instant} : t < t' ↔ t ≤ t' ∧ t' ≠ t := by
  have heq : t' = t ↔ t'.nanos = t.nanos := by
    cases t
    cases t'
    simp
  change t.nanos < t'.nanos ↔ t.nanos ≤ t'.nanos ∧ t' ≠ t
  rw [ne_eq, heq]
  omega

theorem SubscriptionStatus.ofText_eq_iff {status : SubscriptionStatus} (h : status ≠ .pending) :
    ofText text = status ↔ text = status.word := by
  constructor
  · intro htext
    unfold ofText at htext
    split at htext <;> subst htext
    · rfl
    · rfl
    · rfl
    · rfl
    · rfl
    · rfl
    · exact absurd rfl h
  · rintro rfl
    cases status with
    | pending => exact absurd rfl h
    | _ => rfl

namespace Subscription

/-- Whether the status alone gives access. -/
def IsOpen (r : Subscription) : Prop := r.statusOf = .active ∨ r.statusOf = .onTrial

/-- Whether it is active beyond its end, with no trial ahead. -/
def LapsedAt (r : Subscription) (t : Instant) : Prop :=
  r.statusOf = .active ∧ (∃ fin, r.endsAt = some fin ∧ fin ≤ t) ∧ ¬ r.TrialAheadAt t

theorem isValidText_iff_isOpen : SubscriptionStatus.isValidText r.status = true ↔ r.IsOpen := by
  have hactive : r.statusOf = .active ↔ r.status = SubscriptionStatus.active.word :=
    SubscriptionStatus.ofText_eq_iff (by simp)
  have htrial : r.statusOf = .onTrial ↔ r.status = SubscriptionStatus.onTrial.word :=
    SubscriptionStatus.ofText_eq_iff (by simp)
  simp only [IsOpen, hactive, htrial, SubscriptionStatus.isValidText, SubscriptionStatus.valid,
    List.any_cons, List.any_nil, Bool.or_false, Bool.or_eq_true, beq_iff_eq]
  exact or_congr eq_comm eq_comm

theorem isTextOf_cancelled_iff :
    Store.isTextOf .cancelled r.status = true ↔ r.statusOf = .cancelled := by
  have hcancelled : r.statusOf = .cancelled ↔ r.status = SubscriptionStatus.cancelled.word :=
    SubscriptionStatus.ofText_eq_iff (by simp)
  simp [Store.isTextOf, hcancelled]

/-- The two ways in which validity and status part. -/
theorem isValidAt_iff_isOpen :
    r.isValidAt t = true ↔ r.IsOpen ∧ ¬ r.LapsedAt t ∨ ¬ r.IsOpen ∧ r.TrialAheadAt t := by
  have hends : (∀ fin, r.endsAt = some fin → t < fin) ↔
      ¬ ∃ fin, r.endsAt = some fin ∧ fin ≤ t := by
    constructor
    · rintro hahead ⟨fin, hfin, hle⟩
      exact absurd (hahead fin hfin) (Int.not_lt.mpr hle)
    · intro hnone fin hfin
      exact Int.not_le.mp fun hle => hnone ⟨fin, hfin, hle⟩
  rw [isValidAt_iff, hends, IsOpen, LapsedAt]
  by_cases hactive : r.statusOf = .active
  · by_cases hahead : r.TrialAheadAt t <;> simp [hactive, hahead]
  · by_cases htrial : r.statusOf = .onTrial <;> simp [hactive, htrial]

theorem isResumableAt_iff :
    r.isResumableAt t = true ↔
      r.statusOf = .cancelled ∧ ∀ fin, r.endsAt = some fin → t ≤ fin := by
  have hends : r.endsAt.all (t ≤ ·) = true ↔ ∀ fin, r.endsAt = some fin → t ≤ fin := by
    cases r.endsAt <;> simp
  simp [isResumableAt, hends]

end Subscription

namespace Store

variable {s : Store} {subscriber : Subscriber}

/-- Whether a row that is not deleted is one of the subscriber. -/
def Holds (s : Store) (subscriber : Subscriber) (r : Subscription) : Prop :=
  r ∈ s.subscriptions ∧ r.isLive = true ∧ r.belongsTo subscriber = true

theorem mem_validSubscriptions_iff :
    r ∈ s.validSubscriptions.filter (·.belongsTo subscriber) ↔
      s.Holds subscriber r ∧ r.IsOpen := by
  simp only [validSubscriptions, liveSubscriptions, List.mem_filter,
    Subscription.isValidText_iff_isOpen, Holds]
  tauto

theorem findValidSubscription_eq_some (h : s.findValidSubscription subscriber = some r) :
    s.Holds subscriber r ∧ r.IsOpen :=
  mem_validSubscriptions_iff.mp (mem_of_head?_sortedBy h)

theorem findValidSubscription_eq_none :
    s.findValidSubscription subscriber = none ↔ ∀ r, s.Holds subscriber r → ¬ r.IsOpen := by
  rw [findValidSubscription, head?_sortedBy_eq_none]
  simp only [mem_validSubscriptions_iff, not_and]

/-- Unless one of the subscriptions has lapsed, or is valid for its trial alone. -/
theorem findValidSubscription_ne_none_iff
    (h : ∀ r, s.Holds subscriber r → ¬ r.LapsedAt t ∧ (r.TrialAheadAt t → r.IsOpen)) :
    s.findValidSubscription subscriber ≠ none ↔
      ∃ r, s.Holds subscriber r ∧ r.isValidAt t = true := by
  -- the lookup reads the status alone, which under `h` is what being valid comes to
  have hsame : ∀ r, s.Holds subscriber r → (r.isValidAt t = true ↔ r.IsOpen) := by
    intro r hr
    obtain ⟨hlapsed, htrial⟩ := h r hr
    rw [Subscription.isValidAt_iff_isOpen]
    constructor
    · rintro (⟨hopen, _⟩ | ⟨_, hahead⟩)
      · exact hopen
      · exact htrial hahead
    · exact fun hopen => .inl ⟨hopen, hlapsed⟩
  rw [ne_eq, findValidSubscription_eq_none]
  constructor
  · intro hsome
    push Not at hsome
    obtain ⟨r, hr, hopen⟩ := hsome
    exact ⟨r, hr, (hsame r hr).mpr hopen⟩
  · rintro ⟨r, hr, hvalid⟩ hnone
    exact hnone r hr ((hsame r hr).mp hvalid)

theorem hasValidSubscription_iff :
    s.hasValidSubscription subscriber none = true ↔
      ∃ r, s.Holds subscriber r ∧ r.IsOpen ∧ (s.packageRow? r.packageId).isSome = true := by
  have hpackage : ∀ id, (s.packageRow? id).any (fun p => none.all (p.slug == ·)) =
      (s.packageRow? id).isSome := by
    intro id
    cases s.packageRow? id <;> rfl
  simp only [hasValidSubscription, List.any_eq_true, mem_validSubscriptions_iff, hpackage,
    and_assoc]

theorem mem_resumable_iff :
    (r ∈ s.liveSubscriptions.filter fun r =>
      r.belongsTo subscriber && isTextOf .cancelled r.status && r.endsAt.any (t < ·)) ↔
      s.Holds subscriber r ∧ r.isResumableAt t = true ∧ ∃ fin, r.endsAt = some fin ∧ fin ≠ t := by
  -- the lookup wants an end that is set and ahead, where `isResumableAt` wants none that has passed
  have hafter : r.endsAt.any (t < ·) = true ↔
      (∀ fin, r.endsAt = some fin → t ≤ fin) ∧ ∃ fin, r.endsAt = some fin ∧ fin ≠ t := by
    cases r.endsAt with
    | none => simp
    | some fin => simp [Instant.lt_iff_le_and_ne]
  simp only [liveSubscriptions, List.mem_filter, Bool.and_eq_true, Holds,
    Subscription.isTextOf_cancelled_iff, Subscription.isResumableAt_iff, hafter]
  tauto

theorem findResumable_eq_some (h : s.findResumable subscriber t = some r) :
    s.Holds subscriber r ∧ r.isResumableAt t = true ∧ r.endsAt ≠ some t := by
  obtain ⟨hr, hresumable, fin, hfin, hne⟩ := mem_resumable_iff.mp (mem_of_head?_sortedBy h)
  refine ⟨hr, hresumable, ?_⟩
  rw [hfin]
  simpa using hne

theorem findResumable_ne_none {fin : Instant} (hr : s.Holds subscriber r)
    (hresumable : r.isResumableAt t = true) (hfin : r.endsAt = some fin) (hne : fin ≠ t) :
    s.findResumable subscriber t ≠ none := by
  rw [findResumable, ne_eq, head?_sortedBy_eq_none]
  intro hnone
  exact hnone r (mem_resumable_iff.mpr ⟨hr, hresumable, fin, hfin, hne⟩)

end Store

namespace Subscribing

/-- What a subscriber's lookups find at an instant, in terms of what the subscriptions say of
themselves. -/
structure Lookups (s : Store) (subscriber : Subscriber) (now : Instant)
    (current : Option Subscription) (subscribed : Bool) (resumable : Option Subscription) :
    Prop where
  current_some : ∀ r, current = some r → s.Holds subscriber r ∧ r.IsOpen
  current_none : current = none ↔ ∀ r, s.Holds subscriber r → ¬ r.IsOpen
  subscribed : subscribed = true ↔
    ∃ r, s.Holds subscriber r ∧ r.IsOpen ∧ (s.packageRow? r.packageId).isSome = true
  valid : ∀ r, s.Holds subscriber r → (r.isValidAt now = true ↔
    r.IsOpen ∧ ¬ r.LapsedAt now ∨ ¬ r.IsOpen ∧ r.TrialAheadAt now)
  agrees : (∀ r, s.Holds subscriber r → ¬ r.LapsedAt now ∧ (r.TrialAheadAt now → r.IsOpen)) →
    (current ≠ none ↔ ∃ r, s.Holds subscriber r ∧ r.isValidAt now = true)
  resumable_some : ∀ r, resumable = some r →
    s.Holds subscriber r ∧ r.isResumableAt now = true ∧ r.endsAt ≠ some now
  resumable_found : ∀ r fin, s.Holds subscriber r → r.isResumableAt now = true →
    r.endsAt = some fin → fin ≠ now → resumable ≠ none

section

variable {env : Chances} {w : World} (hcalm : (env w).refusal = none) (subscriber : Subscriber)

include hcalm

theorem run_current? : (env.run (current? subscriber) w).1 =
    .done (w.store.findValidSubscription subscriber) := by
  simp [current?, World.answer, hcalm, Store.answer]

theorem run_isSubscribed : (env.run (isSubscribed subscriber) w).1 =
    .done (w.store.hasValidSubscription subscriber none) := by
  simp [isSubscribed, World.answer, hcalm, Store.answer]

theorem run_resumable? : (env.run (resumable? subscriber) w).1 =
    .done (w.store.findResumable subscriber (env w).now) := by
  simp [resumable?, World.answer, hcalm, Store.answer]

theorem lookups_at :
    ∃ current subscribed resumable,
      (env.run (current? subscriber) w).1 = .done current ∧
      (env.run (isSubscribed subscriber) w).1 = .done subscribed ∧
      (env.run (resumable? subscriber) w).1 = .done resumable ∧
      Lookups w.store subscriber (env w).now current subscribed resumable := by
  refine ⟨_, _, _, run_current? hcalm subscriber, run_isSubscribed hcalm subscriber,
    run_resumable? hcalm subscriber, ?_⟩
  exact
    { current_some := fun _ => Store.findValidSubscription_eq_some
      current_none := Store.findValidSubscription_eq_none
      subscribed := Store.hasValidSubscription_iff
      valid := fun _ _ => Subscription.isValidAt_iff_isOpen
      agrees := Store.findValidSubscription_ne_none_iff
      resumable_some := fun _ => Store.findResumable_eq_some
      resumable_found := fun _ _ => Store.findResumable_ne_none }

end

/-! At noon: one user whose active subscription ended before, one who cancelled in the trial, and
one whose cancelled subscription ends at that instant. -/

def heldRow (user : Nat) (status : SubscriptionStatus) (endsAt trialEndsAt : Option Instant) :
    Subscription :=
  { subscriberType := "user", subscriberId := .ofNat user, packageId := DailyRun.plainPackage.id
    status := status.word, startsAt := .first, endsAt := endsAt, trialEndsAt := trialEndsAt
    cancelledAt := none, cancellationReason := none, autoRenew := false, metadata := none
    id := .ofNat user, createdAt := .first, updatedAt := .first, deletedAt := none }

def lapsedRow : Subscription := heldRow 1 .active (some .first) none

def triedRow : Subscription := heldRow 2 .cancelled (some .first) (some DailyRun.nextNoon)

def endingRow : Subscription := heldRow 3 .cancelled (some DailyRun.plainNoon) none

def heldWorld : World :=
  { store :=
      { packages := [DailyRun.plainPackage], subscriptions := [lapsedRow, triedRow, endingRow] } }

theorem lookups_at_noon :
    (DailyRun.plainChances heldWorld).refusal = none ∧
      ∃ current subscribed resumable,
        (DailyRun.plainChances.run (current? ⟨.user, .ofNat 1⟩) heldWorld).1 = .done current ∧
        (DailyRun.plainChances.run (isSubscribed ⟨.user, .ofNat 1⟩) heldWorld).1 =
          .done subscribed ∧
        (DailyRun.plainChances.run (resumable? ⟨.user, .ofNat 1⟩) heldWorld).1 =
          .done resumable ∧
        Lookups heldWorld.store ⟨.user, .ofNat 1⟩ DailyRun.plainNoon current subscribed
          resumable := by
  have hcalm : (DailyRun.plainChances heldWorld).refusal = none := rfl
  exact ⟨hcalm, lookups_at hcalm ⟨.user, .ofNat 1⟩⟩

theorem found_apart_from_valid :
    let found := fun user => (DailyRun.plainChances.run (current? ⟨.user, .ofNat user⟩) heldWorld).1
    let subscribed := fun user =>
      (DailyRun.plainChances.run (isSubscribed ⟨.user, .ofNat user⟩) heldWorld).1
    let resumable := fun user =>
      (DailyRun.plainChances.run (resumable? ⟨.user, .ofNat user⟩) heldWorld).1
    (found 1 = .done (some lapsedRow) ∧ subscribed 1 = .done true ∧
        ∀ r ∈ heldWorld.store.subscriptions, r.belongsTo ⟨.user, .ofNat 1⟩ = true →
          r.isValidAt DailyRun.plainNoon = false) ∧
      (found 2 = .done none ∧ subscribed 2 = .done false ∧
        heldWorld.store.Holds ⟨.user, .ofNat 2⟩ triedRow ∧
        triedRow.isValidAt DailyRun.plainNoon = true) ∧
      resumable 3 = .done none ∧ heldWorld.store.Holds ⟨.user, .ofNat 3⟩ endingRow ∧
        endingRow.isResumableAt DailyRun.plainNoon = true := by
  intro found subscribed resumable
  have hlapsed : heldWorld.store.findValidSubscription ⟨.user, .ofNat 1⟩ = some lapsedRow := by
    have hrows : heldWorld.store.validSubscriptions.filter (·.belongsTo ⟨.user, .ofNat 1⟩) =
        [lapsedRow] := rfl
    rw [Store.findValidSubscription, hrows]
    simp [sortedBy]
  have htried : heldWorld.store.findValidSubscription ⟨.user, .ofNat 2⟩ = none := by
    rw [← Option.isNone_iff_eq_none]
    decide +kernel
  have hending : heldWorld.store.findResumable ⟨.user, .ofNat 3⟩ DailyRun.plainNoon = none := by
    rw [← Option.isNone_iff_eq_none]
    decide +kernel
  have hlapsed : found 1 = .done (some lapsedRow) := hlapsed ▸ run_current? rfl _
  have htried : found 2 = .done none := htried ▸ run_current? rfl _
  have hending : resumable 3 = .done none := hending ▸ run_resumable? rfl _
  have hholds : heldWorld.store.Holds ⟨.user, .ofNat 2⟩ triedRow :=
    ⟨by simp [heldWorld], rfl, by decide +kernel⟩
  have hholds' : heldWorld.store.Holds ⟨.user, .ofNat 3⟩ endingRow :=
    ⟨by simp [heldWorld], rfl, by decide +kernel⟩
  refine ⟨⟨hlapsed, rfl, ?_⟩, ⟨htried, rfl, hholds, ?_⟩, hending, hholds', ?_⟩ <;> decide +kernel

end Subscribing

end RecurringBilling
