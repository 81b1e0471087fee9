import RecurringBilling.Proofs.Lifecycle.Calls
import RecurringBilling.Proofs.Lifecycle.Soundness
import RecurringBilling.Usage

/-! When a subscription gives access, and what that says of its cancellation and its end. A trial is
looked at on its own: a subscription is valid by its status and its end, or by its trial. -/

namespace RecurringBilling

open Procedure

/-- Whether every use of every feature is denied at an instant. -/
def Usage.Denies (r : Subscription) (t : Instant) : Prop :=
  ∀ (env : Chances) (w : World) (slug : String) (amount : Decimal), (env w).now = t →
    env.run (check r slug amount) w = (.done false, w)

theorem Usage.denies_of_invalid {r : Subscription} {t : Instant} (h : r.isValidAt t = false) :
    Denies r t := by
  intro env w slug amount hnow
  simp [check, hnow, h]

def Usage.grants (env : Chances) (r : Subscription) (slug : String) (amount : Decimal) (w : World) :
    Bool :=
  match (env.run (check r slug amount) w).1 with
  | .done granted => granted
  | _ => false

namespace Subscription

variable {r : Subscription} {t : Instant}

def TrialAheadAt (r : Subscription) (t : Instant) : Prop :=
  ∃ trial, r.trialEndsAt = some trial ∧ t < trial

/-- What the calls on subscriptions keep of the status and the dates. -/
structure Coherent (r : Subscription) : Prop where
  live : r.deletedAt = none
  status : r.statusOf = .active ∨ r.statusOf = .onTrial ∨ r.statusOf = .cancelled
  cancelled : r.isCancelled = true → r.statusOf = .cancelled
  trial : r.statusOf = .onTrial →
    ∃ trial fin, r.trialEndsAt = some trial ∧ r.endsAt = some fin ∧ trial ≤ fin

/-- What validity says of cancellation and end, apart from the trial. -/
structure Exclusive (r : Subscription) : Prop where
  cancelled : ∀ t, r.isValidAt t = true → r.isCancelled = true → r.TrialAheadAt t
  expired : ∀ t, r.isValidAt t = true → r.isExpiredAt t = true →
    (r.statusOf = .onTrial ∧ ¬ r.TrialAheadAt t) ∨ (r.statusOf = .active ∧ r.TrialAheadAt t)
  ended : ∀ t fin, r.endsAt = some fin → fin ≤ t → r.statusOf ≠ .onTrial → ¬ r.TrialAheadAt t →
    Usage.Denies r t

theorem isValidAt_iff :
    r.isValidAt t = true ↔ (r.statusOf = .active ∧ ∀ fin, r.endsAt = some fin → t < fin) ∨
      r.statusOf = .onTrial ∨ r.TrialAheadAt t := by
  have hends : r.endsAt.all (t < ·) = true ↔ ∀ fin, r.endsAt = some fin → t < fin := by
    cases r.endsAt <;> simp
  simp [isValidAt, isActiveAt, isOnTrialAt, TrialAheadAt, Option.any_eq_true, hends]

theorem Coherent.trialAheadAt_of_cancelled (h : r.Coherent) (hvalid : r.isValidAt t = true)
    (hcancelled : r.isCancelled = true) : r.TrialAheadAt t := by
  have hstatus := h.cancelled hcancelled
  rcases isValidAt_iff.mp hvalid with ⟨hactive, _⟩ | htrial | hahead
  · rw [hstatus] at hactive
    cases hactive
  · rw [hstatus] at htrial
    cases htrial
  · exact hahead

/-- One that is valid after its end is on a trial that is over, or was ended before its trial. -/
theorem Coherent.cases_of_expired (h : r.Coherent) (hvalid : r.isValidAt t = true)
    (hexpired : r.isExpiredAt t = true) :
    (r.statusOf = .onTrial ∧ ¬ r.TrialAheadAt t) ∨ (r.statusOf = .active ∧ r.TrialAheadAt t) := by
  have hne : r.statusOf ≠ .expired := by
    rcases h.status with hs | hs | hs <;> rw [hs] <;> decide
  obtain ⟨⟨fin, hfin, hlt⟩, huncancelled⟩ :
      (∃ fin, r.endsAt = some fin ∧ fin < t) ∧ r.isCancelled = false := by
    simpa [isExpiredAt, hne, Option.any_eq_true] using hexpired
  rcases h.status with hs | hs | hs
  · refine .inr ⟨hs, ?_⟩
    rcases isValidAt_iff.mp hvalid with ⟨_, hends⟩ | htrial | hahead
    · exact absurd (hends fin hfin) (Int.not_lt.mpr (Int.le_of_lt hlt))
    · rw [hs] at htrial
      cases htrial
    · exact hahead
  · refine .inl ⟨hs, ?_⟩
    rintro ⟨trial, htrial, hahead⟩
    obtain ⟨trial', fin', htrial', hfin', hle⟩ := h.trial hs
    obtain rfl : trial = trial' := Option.some.inj (htrial.symm.trans htrial')
    obtain rfl : fin = fin' := Option.some.inj (hfin.symm.trans hfin')
    have hearlier : fin.nanos < t.nanos := hlt
    have hlater : t.nanos < trial.nanos := hahead
    have hspan : trial.nanos ≤ fin.nanos := hle
    omega
  · simp [isCancelled, hs] at huncancelled

theorem isValidAt_eq_false_of_ended {fin : Instant} (hfin : r.endsAt = some fin) (hle : fin ≤ t)
    (hstatus : r.statusOf ≠ .onTrial) (hahead : ¬ r.TrialAheadAt t) : r.isValidAt t = false := by
  rw [← Bool.not_eq_true, isValidAt_iff]
  rintro (⟨_, hends⟩ | htrial | htrial)
  · exact absurd (hends fin hfin) (Int.not_lt.mpr hle)
  · exact hstatus htrial
  · exact hahead htrial

theorem Coherent.exclusive (h : r.Coherent) : r.Exclusive where
  cancelled _ := h.trialAheadAt_of_cancelled
  expired _ := h.cases_of_expired
  ended _ _ hfin hle hstatus hahead :=
    Usage.denies_of_invalid (isValidAt_eq_false_of_ended hfin hle hstatus hahead)

theorem Coherent.denies_of_cancelled (h : r.Coherent) (hcancelled : r.isCancelled = true)
    (hahead : ¬ r.TrialAheadAt t) : Usage.Denies r t := by
  apply Usage.denies_of_invalid
  rw [← Bool.not_eq_true]
  exact fun hvalid => hahead (h.trialAheadAt_of_cancelled hvalid hcancelled)

theorem Coherent.cancellation (h : r.Coherent) (now : Instant) (immediate : Bool)
    (reason : Option String) :
    ((Subscribing.cancellation now immediate reason).apply r).Coherent where
  live := h.live
  status := .inr (.inr rfl)
  cancelled _ := rfl
  trial hstatus := by cases hstatus

theorem Coherent.resumption (h : r.Coherent) (now : Instant) :
    ((Subscribing.resumption now).apply r).Coherent where
  live := h.live
  status := .inl rfl
  cancelled hcancelled := by cases hcancelled
  trial hstatus := by cases hstatus

section

variable {subscriber : Subscriber} {package : Package} {withTrial : Bool} {start : Instant}

theorem statusOf_of_new (hnew : r.toNewSubscription =
    Subscribing.newSubscription subscriber package withTrial start) :
    r.statusOf = if r.trialEndsAt.isSome then .onTrial else .active := by
  have hstatus : r.status = (if r.trialEndsAt.isSome then SubscriptionStatus.onTrial
      else .active).word := by
    rw [hnew, Subscribing.newSubscription]
  rw [statusOf, hstatus]
  cases r.trialEndsAt <;> rfl

theorem isCancelled_of_new (hnew : r.toNewSubscription =
    Subscribing.newSubscription subscriber package withTrial start) : r.isCancelled = false := by
  have hcancelledAt : r.cancelledAt = none := by rw [hnew, Subscribing.newSubscription]
  have hstatus := statusOf_of_new hnew
  cases htrial : r.trialEndsAt with
  | none => simp [isCancelled, hcancelledAt, hstatus, htrial]
  | some trial => simp [isCancelled, hcancelledAt, hstatus, htrial]

theorem coherent_of_new (hlive : r.deletedAt = none) (hnew : r.toNewSubscription =
    Subscribing.newSubscription subscriber package withTrial start) : r.Coherent where
  live := hlive
  status := by
    rw [statusOf_of_new hnew]
    cases r.trialEndsAt.isSome
    · exact .inl rfl
    · exact .inr (.inl rfl)
  cancelled hcancelled := by
    rw [isCancelled_of_new hnew] at hcancelled
    cases hcancelled
  trial hstatus := by
    cases htrial : r.trialEndsAt with
    | none =>
      rw [statusOf_of_new hnew, htrial] at hstatus
      cases hstatus
    | some trial =>
      rw [hnew] at htrial ⊢
      obtain ⟨fin, hfin, hle⟩ := Subscribing.exists_endsAt_of_trial subscriber htrial
      exact ⟨trial, fin, rfl, hfin, hle⟩

end

end Subscription

namespace Store

variable {s s' : Store}

def IsDown (id : Id) (s : Store) : Prop :=
  ∃ r, s.findSubscription id = some r ∧ r.isCancelled = true

def AllCoherent (s : Store) : Prop := ∀ r ∈ s.subscriptions, r.Coherent

theorem AllCoherent.replace (h : s.AllCoherent) {earlier later : List Subscription}
    {old new : Subscription} (hold : s.subscriptions = earlier ++ old :: later)
    (hnew : old.Coherent → new.Coherent) :
    ∀ r ∈ earlier ++ new :: later, r.Coherent := by
  unfold AllCoherent at h
  rw [hold] at h
  simp only [List.forall_mem_append, List.forall_mem_cons] at h ⊢
  exact ⟨h.1, hnew h.2.1, h.2.2⟩

theorem IsDown.replace {id : Id} (h : s.IsDown id) {earlier later : List Subscription}
    {old new : Subscription} (hold : s.subscriptions = earlier ++ old :: later)
    (hid : new.id = old.id) (hlive : new.deletedAt = old.deletedAt)
    (hnew : old.id = id → new.isCancelled = true) :
    ∃ r, (earlier ++ new :: later).find? (fun r => r.isLive && r.id == id) = some r ∧
      r.isCancelled = true := by
  obtain ⟨r, hr, hcancelled⟩ := h
  rw [findSubscription, hold] at hr
  have hsame : (new.isLive && new.id == id) = (old.isLive && old.id == id) := by
    simp [Subscription.isLive, hid, hlive]
  rcases find?_replace hsame hr with hfound | ⟨rfl, hfound⟩
  · exact ⟨r, hfound, hcancelled⟩
  · have hrid : r.id = id := by
      have hp := List.find?_some hr
      simp only [Bool.and_eq_true, beq_iff_eq] at hp
      exact hp.2
    exact ⟨new, hfound, hnew hrid⟩

theorem AllCoherent.add (h : ∀ r ∈ s.subscriptions, r.Coherent) {subscriber : Subscriber}
    {package : Package} {withTrial : Bool} {start : Instant} {seeds : List ItemSeed}
    {row : Subscription}
    (hadds : s.Adds (Subscribing.newSubscription subscriber package withTrial start) seeds row s') :
    s'.AllCoherent := by
  intro r hr
  rw [hadds.subscriptions] at hr
  rcases List.mem_append.mp hr with hr | hr
  · exact h r hr
  · obtain rfl := List.mem_singleton.mp hr
    exact Subscription.coherent_of_new hadds.live hadds.content

theorem AllCoherent.update (h : s.AllCoherent) {id : Id} {changes : SubscriptionChanges}
    {row : Subscription} (hu : s.updateSubscription id changes = .ok (row, s'))
    (hc : ∀ r : Subscription, r.Coherent → (changes.apply r).Coherent) : s'.AllCoherent := by
  obtain ⟨earlier, old, later, hold, _, _, rfl, rfl⟩ := updateSubscription_split hu
  exact h.replace hold (hc old)

theorem IsDown.append {id : Id} {rows : List Subscription} {row : Subscription}
    (hrows : s'.subscriptions = rows ++ [row])
    (h : ∃ r, rows.find? (fun r => r.isLive && r.id == id) = some r ∧ r.isCancelled = true) :
    s'.IsDown id := by
  obtain ⟨r, hr, hcancelled⟩ := h
  refine ⟨r, ?_, hcancelled⟩
  rw [findSubscription, hrows, List.find?_append, hr, Option.some_or]

theorem IsDown.update {id id' : Id} (h : s.IsDown id) {changes : SubscriptionChanges}
    {row : Subscription} (hu : s.updateSubscription id' changes = .ok (row, s'))
    (hc : id' = id → ∀ r : Subscription, (changes.apply r).isCancelled = true) : s'.IsDown id := by
  obtain ⟨earlier, old, later, hold, hid, _, rfl, rfl⟩ := updateSubscription_split hu
  exact h.replace hold rfl rfl fun hsame => hc (hid.symm.trans hsame) old

theorem isDown_of_cancelled (h : s.AllCoherent) {id : Id} {now : Instant} {immediate : Bool}
    {reason : Option String} {row : Subscription}
    (hu : s.updateSubscription id (Subscribing.cancellation now immediate reason) =
      .ok (row, s')) : s'.IsDown id := by
  obtain ⟨earlier, old, later, hold, hid, hfirst, rfl, rfl⟩ := updateSubscription_split hu
  refine ⟨_, ?_, Subscribing.isCancelled_cancellation now immediate reason old⟩
  have hlive : old.deletedAt = none := (h old (by simp [hold])).live
  have hnone : earlier.find? (fun r => r.isLive && r.id == id) = none := by
    rw [List.find?_eq_none]
    intro r hr
    simp [hfirst r hr]
  rw [findSubscription, List.find?_append, hnone, Option.none_or, List.find?_cons_of_pos]
  simp [Subscription.isLive, SubscriptionChanges.apply, hlive, hid]

end Store

namespace Deed

variable {s s' : Store} {call : Call}

theorem IsLifecycle.allCoherent (h : IsLifecycle (.asked s s' call)) (hs : s.AllCoherent) :
    s'.AllCoherent := by
  cases h with
  | quiet => exact hs
  | made hmakes =>
    cases hmakes with
    | subscribed hadds => exact Store.AllCoherent.add hs hadds
    | switched _ hold _ _ hadds =>
      exact Store.AllCoherent.add (hs.replace hold fun hr => hr.cancellation ..) hadds
  | cancelled hu => exact hs.update hu fun _ hr => hr.cancellation ..
  | resumed hu => exact hs.update hu fun _ hr => hr.resumption _

theorem IsLifecycle.isDown (h : IsLifecycle (.asked s s' call)) {id : Id}
    (hresumes : resumes id (.asked s s' call) = false) (hs : s.IsDown id) : s'.IsDown id := by
  cases h with
  | quiet => exact hs
  | made hmakes =>
    cases hmakes with
    | subscribed hadds => exact Store.IsDown.append hadds.subscriptions hs
    | @switched _ old _ _ now _ _ _ hold _ _ hadds =>
      have hcancelled := Creation.isCancelled_switchedFrom now old
      exact Store.IsDown.append hadds.subscriptions (hs.replace hold rfl rfl fun _ => hcancelled)
  | cancelled hu => exact hs.update hu fun _ => Subscribing.isCancelled_cancellation _ _ _
  | resumed hu =>
    refine hs.update hu fun hid => ?_
    subst hid
    simp [resumes, Subscribing.resumption] at hresumes

end Deed

namespace Subscription

variable {start s : Store}

theorem allCoherent_of_chained {deeds : List Deed} (hchain : Deed.Chained start deeds s)
    (hdeeds : ∀ d ∈ deeds, d.IsLifecycle) (hstart : start.AllCoherent) : s.AllCoherent :=
  hchain.keeps (fun _ _ _ hmem => (hdeeds _ hmem).allCoherent) hstart

/-- What is cancelled stays so for as long as it is not taken up again. -/
theorem isDown_of_chained {early late : List Deed} {before after : Store} {id : Id} {now : Instant}
    {immediate : Bool} {reason : Option String} {row : Subscription} {call : Call}
    (hchain : Deed.Chained start (early ++ .asked before after call :: late) s)
    (hdeeds : ∀ d ∈ early ++ .asked before after call :: late, d.IsLifecycle)
    (hstart : start.AllCoherent)
    (hu : before.updateSubscription id (Subscribing.cancellation now immediate reason) =
      .ok (row, after))
    (hlate : ∀ d ∈ late, d.resumes id = false) : s.IsDown id := by
  obtain ⟨between, hearly, hbefore, hrest⟩ := Deed.chained_append.mp hchain
  subst hbefore
  have hbetween : before.AllCoherent :=
    allCoherent_of_chained hearly (fun d hd => hdeeds d (List.mem_append_left _ hd)) hstart
  refine hrest.keeps ?_ (Store.isDown_of_cancelled hbetween hu)
  intro before' after' call' hmem hdown
  have hlifecycle := hdeeds _ (List.mem_append_right _ (List.mem_cons_of_mem _ hmem))
  exact hlifecycle.isDown (hlate _ hmem) hdown

/-- However the calls are interleaved and whatever is refused: apart from its trial, a subscription
that is valid is neither cancelled nor at its end, and one that a call has cancelled is denied
everything until it is taken up again. -/
theorem exclusive_of_calls (start : Store) (hnone : start.subscriptions = [])
    (calls : List LifecycleCall) (moves : List Move) :
    let pool := LifecycleCall.pool start calls
    let s := (pool.run moves).world.store
    (∀ r ∈ s.subscriptions, r.Exclusive) ∧
      ∀ i subscription immediate reason row,
        calls[i]? = some (.cancel subscription immediate reason) →
        (pool.run moves).calls[i]? = some (.done row) →
        ∃ early d late, pool.deeds moves = early ++ (i, d) :: late ∧
          d.Cancels subscription.id ∧
          ((∀ e ∈ late, e.2.resumes subscription.id = false) →
            ∃ r, s.findSubscription subscription.id = some r ∧ r.isCancelled = true ∧
              ∀ t, ¬ r.TrialAheadAt t → Usage.Denies r t) := by
  intro pool s
  have hstart : start.AllCoherent := by simp [Store.AllCoherent, hnone]
  have hchain : Deed.Chained start ((pool.deeds moves).map (·.2)) s :=
    (pool.leads_run moves).stores
  have hdeeds := LifecycleCall.isLifecycle_of_mem_deeds start calls moves
  have hcoherent : s.AllCoherent := allCoherent_of_chained hchain hdeeds hstart
  refine ⟨fun r hr => (hcoherent r hr).exclusive, ?_⟩
  intro i subscription immediate reason row hcall hdone
  have hp : pool.calls[i]? = some (Subscribing.cancel subscription immediate reason) := by
    simp [pool, LifecycleCall.pool, hcall, LifecycleCall.procedure]
  have hends := Pool.ends_of hp hdone (show (done row).Ends [] (.done row) from ⟨rfl, rfl⟩)
  rw [List.append_nil] at hends
  rcases Subscribing.ends_cancel hends with
    ⟨_, _, _, _, hfailed⟩ | ⟨before, after, now, row', hu, hof, _⟩
  · cases hfailed
  · have hmem : (i, _) ∈ pool.deeds moves := Deed.mem_of.mp (hof ▸ List.mem_singleton_self _)
    obtain ⟨early, late, hsplit⟩ := List.append_of_mem hmem
    refine ⟨early, _, late, hsplit, ⟨_, _, _, _, _, _, rfl⟩, ?_⟩
    intro hlate
    have hall := congrArg (List.map (·.2)) hsplit
    rw [List.map_append, List.map_cons] at hall
    change ∀ d ∈ (pool.deeds moves).map (·.2), d.IsLifecycle at hdeeds
    rw [hall] at hchain hdeeds
    have hunresumed : ∀ d ∈ late.map (·.2), d.resumes subscription.id = false :=
      List.forall_mem_map.mpr hlate
    obtain ⟨r, hr, hcancelled⟩ := isDown_of_chained hchain hdeeds hstart hu hunresumed
    have hrmem : r ∈ s.subscriptions := List.mem_of_find?_eq_some hr
    exact ⟨r, hr, hcancelled, fun t => (hcoherent r hrmem).denies_of_cancelled hcancelled⟩

/-! A subscriber who cancels a trial at once, and one who lets it run past the end of the cycle. -/

def seatsFeature : Feature :=
  { slug := "seats", name := "Seats", description := none, typeWord := "consumable"
    isActive := true, sortOrder := 0, metadata := none, id := .ofNat 5, createdAt := .first
    updatedAt := .first, deletedAt := none }

def seatsStore : Store :=
  { features := [seatsFeature]
    packages := [trialPackage]
    grants := [{ packageId := trialPackage.id, featureId := seatsFeature.id, value := none
                 isAvailable := true, sortOrder := 0, createdAt := .first, updatedAt := .first }] }

def trialRow : Subscription :=
  { Subscribing.newSubscription ⟨.user, .ofNat 1⟩ trialPackage true DailyRun.plainNoon with
    id := trialId, createdAt := DailyRun.plainNoon, updatedAt := DailyRun.plainNoon
    deletedAt := none }

def trialSubscribed : World :=
  (DailyRun.plainChances.run (Subscribing.subscribe ⟨.user, .ofNat 1⟩ trialPackage true)
    { store := seatsStore }).2

def trialCancelled : World :=
  (DailyRun.plainChances.run (Subscribing.cancel trialRow false none) trialSubscribed).2

/-- A day after the end of the cycle. -/
def lapsedNoon : Instant := ⟨19915 * 86400000000000 + 43200000000000, by decide, by decide⟩

def lapsedChances : Chances := fun _ => { now := lapsedNoon }

theorem valid_and_cancelled_and_expired :
    trialCancelled.store.subscriptions.map (fun r => (r.isValidAt DailyRun.plainNoon, r.isCancelled,
        Usage.grants DailyRun.plainChances r "seats" 1 trialCancelled)) = [(true, true, true)] ∧
      trialSubscribed.store.subscriptions.map (fun r => (r.isValidAt lapsedNoon,
        r.isExpiredAt lapsedNoon, Usage.grants lapsedChances r "seats" 1 trialSubscribed)) =
        [(true, true, true)] :=
  ⟨by decide +kernel, by decide +kernel⟩

def trialPool : Pool Subscription :=
  LifecycleCall.pool trialStore
    [.create (.subscribe ⟨.user, .ofNat 1⟩ trialPackage true), .cancel trialRow false none]

def trialMoves : List Move :=
  List.replicate 6 ⟨0, { now := DailyRun.plainNoon }⟩ ++
    List.replicate 4 ⟨1, { now := DailyRun.plainNoon }⟩

theorem exclusive_of_calls_trial :
    trialStore.subscriptions = [] ∧
      let s := (trialPool.run trialMoves).world.store
      (∀ r ∈ s.subscriptions, r.Exclusive) ∧
        ∃ r, s.findSubscription trialId = some r ∧ r.isCancelled = true ∧
          ∀ t, ¬ r.TrialAheadAt t → Usage.Denies r t := by
  have hnone : trialStore.subscriptions = [] := rfl
  obtain ⟨hexclusive, hcancel⟩ := exclusive_of_calls trialStore hnone
    [.create (.subscribe ⟨.user, .ofNat 1⟩ trialPackage true), .cancel trialRow false none]
    trialMoves
  have hended : ((trialPool.run trialMoves).calls[1]?.bind value?).isSome = true := by
    decide +kernel
  obtain ⟨row, hrow⟩ := Option.isSome_iff_exists.mp hended
  obtain ⟨p, hp, hvalue⟩ := Option.bind_eq_some_iff.mp hrow
  have hdone : (trialPool.run trialMoves).calls[1]? = some (.done row) := by
    rw [hp, eq_done_of_value? hvalue]
  have hunresumed : ∀ e ∈ trialPool.deeds trialMoves, e.2.resumes trialId = false := by
    decide +kernel
  obtain ⟨early, d, late, hsplit, _, hdown⟩ := hcancel 1 trialRow false none row rfl hdone
  have hlate : ∀ e ∈ late, e ∈ trialPool.deeds trialMoves := by
    intro e he
    exact hsplit ▸ List.mem_append_right _ (List.mem_cons_of_mem _ he)
  exact ⟨hnone, hexclusive, hdown fun e he => hunresumed e (hlate e he)⟩

end Subscription

end RecurringBilling
