import RecurringBilling.Proofs.Usage.Deeds

/-! What each call on an item can do from its start to its end, whatever the others do meanwhile. -/

namespace RecurringBilling

namespace Usage

open Procedure

variable {subscription : Subscription} {slug : String} {amount : Decimal} {deeds : List Deed}

def logRow (subscription : Subscription) (item : SubscriptionItem) (amount : Decimal)
    (description : String) : NewUsageLog :=
  ⟨subscription.id, item.featureId, amount, some description, none⟩

/-- An attempt to write an entry to the log, and whether it succeeded. -/
inductive Logs (row : NewUsageLog) : List Deed → Outcome Unit → Prop where
  | written (s : Store) (now : Instant) (entry : UsageLog) :
      Logs row [.asked s (s.createUsageLog now row).2 ⟨.createUsageLog row, .ok entry⟩] (.done ())
  | refused (s : Store) (e : StorageError) :
      Logs row [.asked s s ⟨.createUsageLog row, .error e⟩] (.failed (.storage e))

inductive Warns (subscription : Subscription) (item : SubscriptionItem) (feature : Feature)
    (amount new : Decimal) : List Deed → Outcome Unit → Prop where
  | unmetered (h : feature.isMetered = false) :
      Warns subscription item feature amount new [] (.done ())
  | checked {previous : Decimal} {crossed : Bool} (h : feature.isMetered = true)
      (hprevious : new.sub amount = .ok previous)
      (hcrossed : crossesThreshold previous new item.limitValue = .ok crossed) :
      Warns subscription item feature amount new
        (if crossed then
          [.announced (.usageLimitWarning subscription feature new item.limitValue)]
        else []) (.done ())
  | halted (fault : ArithmeticFault) :
      Warns subscription item feature amount new [] (.halted fault)

/-- What an increment can do. It leaves all as it is, or it counts an item up, warns if that is due,
and writes to the log. -/
inductive Increments (subscription : Subscription) (slug : String) (amount : Decimal) :
    List Deed → Outcome Bool → Prop where
  | idle {deeds : List Deed} {o : Outcome Bool} (hidle : ∀ d ∈ deeds, d.IsIdle)
      (ho : o ≠ .done true) : Increments subscription slug amount deeds o
  | counted {s before after : Store} {now : Instant} {item : SubscriptionItem} {feature : Feature}
      {new : Decimal} {warnings late : List Deed} {logged : Outcome Unit}
      (hread : s.findItem subscription.id slug = some (item, feature))
      (hupdate : before.incrementUsage now item.id amount (enforcedLimit item feature) =
        .ok (some new, after))
      (hwarns : Warns subscription item feature amount new warnings (.done ()))
      (hlogs : Logs (logRow subscription item amount incrementNote) late logged) :
      Increments subscription slug amount
        (.asked s s ⟨.findItem subscription.id slug, .ok (some (item, feature))⟩ ::
          .asked before after
            ⟨.incrementUsage item.id amount (enforcedLimit item feature), .ok (some new)⟩ ::
          (warnings ++ late))
        (logged.map fun _ => true)
  | halted {s before after : Store} {now : Instant} {item : SubscriptionItem} {feature : Feature}
      {new : Decimal} (hread : s.findItem subscription.id slug = some (item, feature))
      (hupdate : before.incrementUsage now item.id amount (enforcedLimit item feature) =
        .ok (some new, after)) (fault : ArithmeticFault) :
      Increments subscription slug amount
        [.asked s s ⟨.findItem subscription.id slug, .ok (some (item, feature))⟩,
          .asked before after
            ⟨.incrementUsage item.id amount (enforcedLimit item feature), .ok (some new)⟩]
        (.halted fault)

theorem logs_of_ends {item : SubscriptionItem} {description : String} {o : Outcome Unit}
    (h : (writeLog subscription item amount description).Ends deeds o) :
    Logs (logRow subscription item amount description) deeds o := by
  rcases Ends.requestOr_bind h (by simp) with
    ⟨s, e, rfl, rfl⟩ | ⟨before, after, now, entry, rest, ha, rfl, hrest⟩
  · exact .refused s e
  · obtain ⟨rfl, rfl⟩ := hrest
    obtain rfl :
        (before.createUsageLog now (logRow subscription item amount description)).2 = after :=
      congrArg Prod.snd (Except.ok.inj ha)
    exact .written before now entry

theorem warns_of_ends {item : SubscriptionItem} {feature : Feature} {new : Decimal}
    {o : Outcome Unit}
    (h : (warnIfCrossed subscription slug item feature amount new).Ends deeds o) :
    Warns subscription item feature amount new deeds o := by
  unfold warnIfCrossed at h
  split at h
  · rename_i hmetered
    rcases h.compute_bind with ⟨fault, _, rfl, rfl⟩ | ⟨previous, hprevious, h⟩
    · exact .halted fault
    · rcases h.compute_bind with ⟨fault, _, rfl, rfl⟩ | ⟨crossed, hcrossed, h⟩
      · exact .halted fault
      · have hdeeds : deeds = (if crossed then
            [.announced (.usageLimitWarning subscription feature new item.limitValue)]
          else []) ∧ o = .done () := by
          cases crossed with
          | true =>
            obtain ⟨_, rfl, rfl, rfl⟩ := h
            exact ⟨rfl, rfl⟩
          | false => exact h
        obtain ⟨rfl, rfl⟩ := hdeeds
        exact .checked hmetered hprevious hcrossed
  · rename_i hunmetered
    obtain ⟨rfl, rfl⟩ := h
    exact .unmetered (by simpa using hunmetered)

theorem counted_of_ends {s before after : Store} {now : Instant} {item : SubscriptionItem}
    {feature : Feature} {new : Decimal} {rest : List Deed} {o : Outcome Bool}
    (hread : s.findItem subscription.id slug = some (item, feature))
    (hupdate : before.incrementUsage now item.id amount (enforcedLimit item feature) =
      .ok (some new, after))
    (h : Ends (do
      warnIfCrossed subscription slug item feature amount new
      writeLog subscription item amount incrementNote
      return true) rest o) :
    Increments subscription slug amount
      (.asked s s ⟨.findItem subscription.id slug, .ok (some (item, feature))⟩ ::
        .asked before after
          ⟨.incrementUsage item.id amount (enforcedLimit item feature), .ok (some new)⟩ ::
        rest) o := by
  obtain ⟨warnings, late, between, rfl, hwarns, hlate⟩ := Ends.bind h
  have hwarns := warns_of_ends hwarns
  cases between with
  | done _ =>
    obtain ⟨late, nothing, logged, rfl, hlogs, hends⟩ :=
      Ends.bind
        (show (writeLog subscription item amount incrementNote >>= _).Ends late o from hlate)
    have hlogs := logs_of_ends hlogs
    obtain ⟨rfl, rfl⟩ : nothing = [] ∧ o = logged.map fun _ => true := by
      cases logged <;> exact hends
    rw [List.append_nil]
    exact .counted hread hupdate hwarns hlogs
  | failed e => cases hwarns
  | halted fault =>
    obtain ⟨rfl, rfl⟩ := hlate
    cases hwarns
    exact .halted hread hupdate fault

theorem increments_of_ends {o : Outcome Bool}
    (h : (increment subscription slug amount).Ends deeds o) :
    Increments subscription slug amount deeds o := by
  rcases Ends.request_bind h (by simp) with
    ⟨s, e, rfl, rfl⟩ | ⟨s, s', now, found, rest, hread, rfl, hfoundRest⟩
  · exact .idle (by simpa using .refused s _ e) (by simp)
  · obtain ⟨hfound, rfl⟩ : s.findItem subscription.id slug = found ∧ s = s' := by
      simpa [Store.answer] using hread
    have hidle := Deed.IsIdle.read s subscription.id slug found
    cases found with
    | none =>
      obtain ⟨rfl, rfl⟩ := hfoundRest
      exact .idle (by simpa using hidle) (by simp)
    | some found =>
      obtain ⟨item, feature⟩ := found
      rcases Ends.compute_bind hfoundRest with ⟨fault, _, rfl, rfl⟩ | ⟨exceeded, _, hchecked⟩
      · exact .idle (by simpa using hidle) (by simp)
      · cases exceeded with
        | true =>
          obtain ⟨rfl, rfl⟩ := hchecked
          exact .idle (by simpa using hidle) (by simp)
        | false =>
          rcases Ends.requestOr_bind hchecked (by simp) with
            ⟨s', e, rfl, rfl⟩ | ⟨before, after, now', updated, rest, hupdate, rfl, hupdated⟩
          · refine .idle ?_ (by simp)
            simpa using ⟨hidle, .refused s' _ e⟩
          · cases updated with
            | none =>
              obtain rfl : after = before := Store.incrementUsage_eq_none hupdate
              obtain ⟨rfl, rfl⟩ := hupdated
              refine .idle ?_ (by simp)
              simpa using ⟨hidle, .rejected after item.id amount _⟩
            | some new => exact counted_of_ends hfound hupdate hupdated

theorem Logs.isUse {row : NewUsageLog} {o : Outcome Unit} (h : Logs row deeds o) :
    ∀ d ∈ deeds, d.IsUse := by
  cases h with
  | written s now entry => simpa using .logged s now row entry
  | refused s e => simpa using .idle (.refused s _ e)

theorem Warns.isUse {item : SubscriptionItem} {feature : Feature} {new : Decimal}
    {o : Outcome Unit} (h : Warns subscription item feature amount new deeds o) :
    ∀ d ∈ deeds, d.IsUse := by
  cases h with
  | @checked _ crossed =>
    cases crossed with
    | true => simpa using .announced _
    | false => simp
  | _ => simp

theorem Warns.additions {item : SubscriptionItem} {feature : Feature} {new : Decimal}
    {o : Outcome Unit} (h : Warns subscription item feature amount new deeds o) (id : Id) :
    Deed.additions id deeds = [] := by
  cases h with
  | @checked _ crossed => cases crossed <;> rfl
  | _ => rfl

theorem Warns.logged {item : SubscriptionItem} {feature : Feature} {new : Decimal}
    {o : Outcome Unit} (h : Warns subscription item feature amount new deeds o) :
    deeds.filterMap Deed.logged? = [] := by
  cases h with
  | @checked _ crossed => cases crossed <;> rfl
  | _ => rfl

theorem Logs.additions {row : NewUsageLog} {o : Outcome Unit} (h : Logs row deeds o) (id : Id) :
    Deed.additions id deeds = [] := by
  cases h <;> rfl

theorem Logs.events {row : NewUsageLog} {o : Outcome Unit} (h : Logs row deeds o) :
    deeds.filterMap Deed.event? = [] := by
  cases h <;> rfl

section

variable {s before after : Store} {found : SubscriptionItem} {feature : Feature} {new : Decimal}
  {warnings late : List Deed} {limit : Option Decimal} {logged : Outcome Unit} {row : NewUsageLog}
  (hlogs : Logs row late logged)

include hlogs

theorem additions_of_counted
    (hwarns : Warns subscription found feature amount new warnings (.done ()))
    {old : SubscriptionItem} (hold : before.item? found.id = some old) (id : Id) :
    Deed.additions id
        (.asked s s ⟨.findItem subscription.id slug, .ok (some (found, feature))⟩ ::
          .asked before after ⟨.incrementUsage found.id amount limit, .ok (some new)⟩ ::
          (warnings ++ late)) =
      if found.id = id then [⟨found.id, old.usage, amount, new⟩] else [] := by
  have hread : Deed.additions id
      [.asked s s ⟨.findItem subscription.id slug, .ok (some (found, feature))⟩] = [] := by
    apply Deed.additions_of_idle
    intro d hd
    obtain rfl := List.mem_singleton.mp hd
    exact .read s subscription.id slug (some (found, feature))
  rw [Deed.additions_cons, hread, Deed.additions_cons, Deed.additions_counted hold,
    Deed.additions_append, hwarns.additions, hlogs.additions]
  simp

theorem events_of_counted :
    (.asked s s ⟨.findItem subscription.id slug, .ok (some (found, feature))⟩ ::
        .asked before after ⟨.incrementUsage found.id amount limit, .ok (some new)⟩ ::
        (warnings ++ late) : List Deed).filterMap Deed.event? =
      warnings.filterMap Deed.event? := by
  rw [filterMap_cons_toList, filterMap_cons_toList, List.filterMap_append, hlogs.events]
  simp

end

theorem Increments.isUse {o : Outcome Bool} (h : Increments subscription slug amount deeds o) :
    ∀ d ∈ deeds, d.IsUse := by
  cases h with
  | idle hidle => exact fun d hd => .idle (hidle d hd)
  | counted _ hupdate hwarns hlogs =>
    intro d hd
    simp only [List.mem_cons, List.mem_append] at hd
    rcases hd with rfl | rfl | hd | hd
    · exact .idle (.read ..)
    · exact .counted hupdate
    · exact hwarns.isUse d hd
    · exact hlogs.isUse d hd
  | halted _ hupdate =>
    intro d hd
    simp only [List.mem_cons, List.not_mem_nil, or_false] at hd
    rcases hd with rfl | rfl
    · exact .idle (.read ..)
    · exact .counted hupdate

theorem Increments.read_of_additions {o : Outcome Bool}
    (h : Increments subscription slug amount deeds o) {id : Id}
    (hadds : Deed.additions id deeds ≠ []) :
    ∃ s found feature, s.findItem subscription.id slug = some (found, feature) ∧ found.id = id ∧
      .asked s s ⟨.findItem subscription.id slug, .ok (some (found, feature))⟩ ∈ deeds := by
  cases h with
  | idle hidle => exact absurd (Deed.additions_of_idle hidle id) hadds
  | counted hread hupdate hwarns hlogs =>
    obtain ⟨old, _, _, hold, _⟩ := Store.incrementUsage_eq_some hupdate
    rw [additions_of_counted hlogs hwarns hold] at hadds
    exact ⟨_, _, _, hread, by simpa using hadds, List.mem_cons_self⟩
  | halted hread hupdate =>
    obtain ⟨old, _, _, hold, _⟩ := Store.incrementUsage_eq_some hupdate
    rw [Deed.additions_cons, Deed.additions_counted hold,
      Deed.additions_of_idle (by simpa using .read ..)] at hadds
    exact ⟨_, _, _, hread, by simpa using hadds, List.mem_cons_self⟩

theorem Warns.resets {item : SubscriptionItem} {feature : Feature} {new : Decimal}
    {o : Outcome Unit} (h : Warns subscription item feature amount new deeds o) (id : Id) :
    ∀ d ∈ deeds, d.resets id = false := by
  cases h with
  | @checked _ crossed => cases crossed <;> simp [Deed.resets]
  | _ => simp

theorem Logs.resets {row : NewUsageLog} {o : Outcome Unit} (h : Logs row deeds o) (id : Id) :
    ∀ d ∈ deeds, d.resets id = false := by
  cases h <;> simp [Deed.resets]

theorem Increments.resets {o : Outcome Bool} (h : Increments subscription slug amount deeds o)
    (id : Id) : ∀ d ∈ deeds, d.resets id = false := by
  cases h with
  | idle hidle => exact fun d hd => (hidle d hd).resets id
  | counted _ _ hwarns hlogs =>
    intro d hd
    simp only [List.mem_cons, List.mem_append] at hd
    rcases hd with rfl | rfl | hd | hd
    · rfl
    · rfl
    · exact hwarns.resets id d hd
    · exact hlogs.resets id d hd
  | halted => simp [Deed.resets]

theorem Logs.addition? {row : NewUsageLog} {o : Outcome Unit} (h : Logs row deeds o) :
    ∀ d ∈ deeds, d.addition? = none := by
  cases h <;> simp [Deed.addition?]

theorem isUse_of_ends_reset {o : Outcome Bool} (h : (reset subscription slug).Ends deeds o) :
    ∀ d ∈ deeds, d.IsUse ∧ d.addition? = none := by
  have hidle {d : Deed} (h : d.IsIdle) : d.IsUse ∧ d.addition? = none := ⟨.idle h, h.addition?⟩
  rcases Ends.request_bind h (by simp) with
    ⟨s, e, rfl, rfl⟩ | ⟨s, s', now, found, rest, hread, rfl, hfound⟩
  · simpa using hidle (.refused s _ e)
  · obtain ⟨_, rfl⟩ : s.findItem subscription.id slug = found ∧ s = s' := by
      simpa [Store.answer] using hread
    refine List.forall_mem_cons.mpr ⟨hidle (.read ..), ?_⟩
    cases found with
    | none =>
      obtain ⟨rfl, rfl⟩ := hfound
      simp
    | some found =>
      rcases Ends.request_bind hfound (by simp) with
        ⟨s, e, rfl, rfl⟩ | ⟨before, after, now, _, rest, hreset, rfl, hrest⟩
      · simpa using hidle (.refused s _ e)
      · refine List.forall_mem_cons.mpr ⟨⟨.reset hreset, rfl⟩, ?_⟩
        obtain ⟨late, nothing, logged, rfl, hlogs, hends⟩ := Ends.bind hrest
        have hlogs := logs_of_ends hlogs
        obtain rfl : nothing = [] := by cases logged <;> exact hends.1
        rw [List.append_nil]
        exact fun d hd => ⟨hlogs.isUse d hd, hlogs.addition? d hd⟩

theorem isUse_of_ends_resetAll {o : Outcome Nat} (h : (resetAll subscription).Ends deeds o) :
    ∀ d ∈ deeds, d.IsUse ∧ d.addition? = none := by
  rcases Ends.request_bind h (by simp) with
    ⟨s, e, rfl, rfl⟩ | ⟨before, after, now, count, rest, hreset, rfl, hrest⟩
  · have hidle := Deed.IsIdle.refused s (.resetAllUsage subscription.id) e
    simpa using ⟨.idle hidle, hidle.addition?⟩
  · obtain ⟨rfl, rfl⟩ := hrest
    obtain rfl : (before.resetAllUsage now subscription.id).2 = after :=
      congrArg Prod.snd (Except.ok.inj hreset)
    refine List.forall_mem_cons.mpr ⟨⟨.resetAll before now subscription.id count, rfl⟩, by simp⟩

theorem isUse_of_ends {call : UsageCall} {o : Outcome UsageAnswer}
    (h : call.procedure.Ends deeds o) : ∀ d ∈ deeds, d.IsUse := by
  cases call with
  | increment subscription slug amount =>
    obtain ⟨_, h, _⟩ := h.map
    exact (increments_of_ends h).isUse
  | reset subscription slug =>
    obtain ⟨_, h, _⟩ := h.map
    exact fun d hd => (isUse_of_ends_reset h d hd).1
  | resetAll subscription =>
    obtain ⟨_, h, _⟩ := h.map
    exact fun d hd => (isUse_of_ends_resetAll h d hd).1

end Usage

end RecurringBilling
