import RecurringBilling.Proofs.DailyRun.DayEffect
import RecurringBilling.Proofs.Schedule.Effects
import RecurringBilling.Proofs.Schedule.History
import RecurringBilling.Proofs.Schedule.Rerun

/-! What a restart of the worker can do to subscribers. A new schedule does not know which days were
run, and a day that is run again finds the invoices of its own first run unpaid. -/

namespace RecurringBilling

open Procedure

namespace Moment

def date? (m : Moment) : Option Date :=
  match m.action with
  | .turn (.tick today) => some today
  | _ => none

/-- Whether a tick cancels a subscription for want of a payment while an invoice is pending that an
earlier tick issued on the same date. -/
def Punishes (earlier later : Moment) : Prop :=
  earlier.date?.isSome ∧ later.date? = earlier.date? ∧
    ∃ i ∈ earlier.issued,
      (∃ j ∈ later.before.invoices, j.id = i.id ∧ j.isLive ∧
        j.status = InvoiceStatus.pending.word) ∧
      ∃ r ∈ later.before.subscriptions, ∃ r' ∈ later.after.subscriptions,
        r.id = i.subscriptionId ∧ r'.id = r.id ∧
          r.status ≠ SubscriptionStatus.cancelled.word ∧
          r'.status = SubscriptionStatus.cancelled.word ∧
          r'.cancellationReason = some DailyRun.pendingInvoiceReason

instance (earlier later : Moment) : Decidable (earlier.Punishes later) := by
  unfold Punishes
  infer_instance

end Moment

namespace Turn

/-- Whether the date was ticked before the last restart. -/
def Forgotten (plan : List Turn) (date : Date) : Prop :=
  ∃ before after, plan = before ++ .restart :: after ∧ .tick date ∈ before

theorem Forgotten.append {plan : List Turn} {date : Date} (h : Forgotten plan date)
    (more : List Turn) : Forgotten (plan ++ more) date := by
  obtain ⟨before, after, rfl, htick⟩ := h
  exact ⟨before, after ++ more, by simp, htick⟩

/-- Whether no date with an end is ticked both before and after a restart. -/
def RunsApart (plan : List Turn) : Prop :=
  ∀ before after, plan = before ++ .restart :: after → ∀ date, date.day < Calendar.lastDay →
    .tick date ∈ before → .tick date ∉ after

theorem RunsApart.not_forgotten {plan rest : List Turn} {date : Date}
    (h : RunsApart (plan ++ .tick date :: rest)) (hdate : date.day < Calendar.lastDay) :
    ¬ Forgotten plan date := by
  rintro ⟨before, after, rfl, htick⟩
  exact h before (after ++ .tick date :: rest) (by simp) date hdate htick (by simp)

end Turn

namespace DailyRun

theorem keeps_ids (ids : List Id) : Keeps fun s => s.subscriptions.map (·.id) = ids where
  expire _ _ _ _ _ _ _ _ hs h := (Store.updateSubscription_eq_ok h).2.1.trans hs
  cancel _ hs h := (Store.updateSubscription_eq_ok h).2.1.trans hs
  invoice _ _ _ hs := hs

end DailyRun

namespace Site

variable {dueDays : Nat} {plan : List Turn} {past : List Moment} {site : Site}

/-- What is known of a site from its past, if nobody was punished so far. -/
structure Spares (plan : List Turn) (past : List Moment) (site : Site) : Prop where
  actions : past.map (·.action) = plan.map .turn
  ids : (site.world.store.subscriptions.map (·.id)).Nodup
  issued : ∀ m ∈ past, m.issued ≠ [] → ∀ date, m.date? = some date →
    Turn.Forgotten plan date ∨ ∀ schedule, site.schedule = some schedule →
      ∃ last, schedule.lastProcessed = some last ∧ date ≤ last
  spared : past.Pairwise fun earlier later => ¬ earlier.Punishes later

theorem Spares.mem_plan (h : site.Spares plan past) {m : Moment} (hm : m ∈ past) {date : Date}
    (hdate : m.date? = some date) : .tick date ∈ plan := by
  obtain ⟨action, before, after⟩ := m
  obtain rfl : action = .turn (.tick date) := by
    unfold Moment.date? at hdate
    split at hdate
    · rename_i haction
      obtain rfl := Option.some.inj hdate
      exact haction
    · cases hdate
  have hmem : Action.turn (.tick date) ∈ plan.map .turn := h.actions ▸ List.mem_map_of_mem hm
  obtain ⟨t, ht, heq⟩ := List.mem_map.mp hmem
  obtain rfl := Action.turn.inj heq
  exact ht

theorem not_punishes_of_rows (hids : (site.world.store.subscriptions.map (·.id)).Nodup)
    {env : Chances} {t : Turn}
    (hrows : ∀ r ∈ (site.turn dueDays env t).world.store.subscriptions,
      r ∈ site.world.store.subscriptions ∨ r.status = SubscriptionStatus.expired.word)
    (earlier : Moment) : ¬ earlier.Punishes (site.moment dueDays (env, .turn t)) := by
  rintro ⟨_, _, i, _, _, r, hr, r', hr', _, hid, hrunning, hcancelled, _⟩
  rcases hrows r' hr' with hsame | hexpired
  · obtain rfl := List.inj_on_of_nodup_map hids hsame hr hid
    exact hrunning hcancelled
  · simp [hexpired, SubscriptionStatus.word] at hcancelled

theorem Spares.append (h : site.Spares plan past) {env : Chances} {t : Turn}
    (hids : ((site.turn dueDays env t).world.store.subscriptions.map (·.id)).Nodup)
    (hold : ∀ m ∈ past, m.issued ≠ [] → ∀ date, m.date? = some date →
      Turn.Forgotten (plan ++ [t]) date ∨
        ∀ schedule, (site.turn dueDays env t).schedule = some schedule →
          ∃ last, schedule.lastProcessed = some last ∧ date ≤ last)
    (hnew : (site.moment dueDays (env, .turn t)).issued ≠ [] → ∀ date, t = .tick date →
      ∀ schedule, (site.turn dueDays env t).schedule = some schedule →
        schedule.lastProcessed = some date)
    (hspared : ∀ m ∈ past, ¬ m.Punishes (site.moment dueDays (env, .turn t))) :
    (site.turn dueDays env t).Spares (plan ++ [t])
      (past ++ [site.moment dueDays (env, .turn t)]) := by
  refine ⟨?_, hids, ?_, ?_⟩
  · rw [List.map_append, h.actions, List.map_append]
    rfl
  · intro m hm hissued date hdate
    rcases List.mem_append.mp hm with hm | hm
    · exact hold m hm hissued date hdate
    · obtain rfl := List.mem_singleton.mp hm
      obtain rfl : t = .tick date := by
        cases t with
        | tick today => exact congrArg Turn.tick (Option.some.inj hdate)
        | restart => cases hdate
      refine .inr fun schedule hs => ⟨date, hnew hissued date rfl schedule hs, ?_⟩
      exact Int.le_refl _
  · refine List.pairwise_append.mpr ⟨h.spared, by simp, ?_⟩
    intro earlier hearlier later hlater
    obtain rfl := List.mem_singleton.mp hlater
    exact hspared earlier hearlier

theorem Spares.restart (h : site.Spares plan past) (env : Chances) :
    (site.turn dueDays env .restart).Spares (plan ++ [.restart])
      (past ++ [site.moment dueDays (env, .turn .restart)]) := by
  refine h.append h.ids ?_ (fun _ date hdate => nomatch hdate) ?_
  · intro m hm _ date hdate
    exact .inl ⟨plan, [], rfl, h.mem_plan hm hdate⟩
  · intro m _ hpunishes
    obtain ⟨hsome, hsame, _⟩ := hpunishes
    rw [← hsame] at hsome
    cases hsome

/-- The date of a tick that is run was not run before, unless that is forgotten. -/
theorem Spares.not_issued (h : site.Spares plan past) {schedule : Schedule}
    (hs : site.schedule = some schedule) {today : Date}
    (hdue : Schedule.isDue schedule.lastProcessed today = true)
    (hknown : ¬ Turn.Forgotten plan today) {m : Moment} (hm : m ∈ past)
    (hdate : m.date? = some today) : m.issued = [] := by
  by_contra hissued
  rcases h.issued m hm hissued today hdate with hforgotten | hremembered
  · exact hknown hforgotten
  · obtain ⟨last, hlast, hle⟩ := hremembered schedule hs
    exact Int.not_lt.mpr hle (Schedule.lt_of_isDue hdue hlast)

theorem Spares.tick (h : site.Spares plan past) (env : Chances) {today : Date}
    (hknown : today.day < Calendar.lastDay → ¬ Turn.Forgotten plan today) :
    (site.turn dueDays env (.tick today)).Spares (plan ++ [.tick today])
      (past ++ [site.moment dueDays (env, .turn (.tick today))]) := by
  have hids : ((site.turn dueDays env (.tick today)).world.store.subscriptions.map (·.id)).Nodup := by
    rw [keeps_turn (DailyRun.keeps_ids _) (.tick today) rfl]
    exact h.ids
  have hticks : Ticks today site (site.turn dueDays env (.tick today)) := ticks h.ids
  cases hticks with
  | idle hexpired hlast =>
    refine h.append hids ?_ ?_ fun m _ => not_punishes_of_rows h.ids hexpired.rows m
    · intro m hm hissued date hdate
      rcases h.issued m hm hissued date hdate with hforgotten | hremembered
      · exact .inl (hforgotten.append _)
      · refine .inr fun schedule' hs' => ?_
        obtain ⟨schedule, hs, hsame⟩ := hlast schedule' hs'
        rw [hsame]
        exact hremembered schedule hs
    · intro hissued
      have hnone : (site.moment dueDays (env, .turn (.tick today))).issued = [] :=
        Moment.issued_eq_nil hexpired.invoices
      exact absurd hnone hissued
  | @ran schedule hs hdate hdue hlast _ =>
    refine h.append hids ?_ ?_ ?_
    · intro m hm hissued date hd
      rcases h.issued m hm hissued date hd with hforgotten | hremembered
      · exact .inl (hforgotten.append _)
      · refine .inr fun schedule' hs' => ⟨today, hlast schedule' hs', ?_⟩
        obtain ⟨last, hl, hle⟩ := hremembered schedule hs
        exact Int.le_of_lt (Int.lt_of_le_of_lt hle (Schedule.lt_of_isDue hdue hl))
    · rintro _ date ⟨⟩ schedule' hs'
      exact hlast schedule' hs'
    · rintro m hm ⟨_, hsame, i, hi, _⟩
      exact List.ne_nil_of_mem hi (h.not_issued hs hdue (hknown hdate) hm hsame.symm)

theorem Spares.run (h : site.Spares plan past) {rest : List Turn}
    (hapart : Turn.RunsApart (plan ++ rest)) {steps : List (Chances × Action)}
    (hsteps : steps.map (·.2) = rest.map .turn) :
    (past ++ site.history dueDays steps).Pairwise fun earlier later => ¬ earlier.Punishes later := by
  induction rest generalizing site plan past steps with
  | nil =>
    obtain rfl : steps = [] := by simpa using hsteps
    rw [history, List.append_nil]
    exact h.spared
  | cons t rest ih =>
    obtain ⟨⟨env, action⟩, steps, rfl, haction, hrest⟩ := List.map_eq_cons_iff.mp hsteps
    obtain rfl : action = .turn t := haction
    rw [List.append_cons] at hapart
    have hnext : (site.turn dueDays env t).Spares (plan ++ [t])
        (past ++ [site.moment dueDays (env, .turn t)]) := by
      cases t with
      | restart => exact h.restart env
      | tick today =>
        rw [← List.append_cons] at hapart
        exact h.tick env hapart.not_forgotten
    have hpairwise := ih hnext hapart hrest
    rw [history, List.append_cons]
    exact hpairwise

/-- The turns of a plan under the same chances. -/
def turns (env : Chances) (plan : List Turn) : List (Chances × Action) :=
  plan.map fun t => (env, .turn t)

theorem map_turns (env : Chances) (plan : List Turn) :
    (turns env plan).map (·.2) = plan.map .turn := by
  rw [turns, List.map_map]
  rfl

theorem run_append (dueDays : Nat) (site : Site) (steps more : List (Chances × Action)) :
    site.run dueDays (steps ++ more) = (site.run dueDays steps).run dueDays more :=
  List.foldl_append

theorem history_append (dueDays : Nat) (site : Site) (steps more : List (Chances × Action)) :
    site.history dueDays (steps ++ more) =
      site.history dueDays steps ++ (site.run dueDays steps).history dueDays more := by
  induction steps generalizing site with
  | nil => rfl
  | cons p rest ih => exact congrArg (site.moment dueDays p :: ·) (ih (site.step dueDays p))

section Refused

variable {busy : Chances} (hbusy : busy.Refuses) (dueDays : Nat)

include hbusy

theorem turn_refused (site : Site) (t : Turn) :
    (site.turn dueDays busy t).world.store = site.world.store ∧
      (site.schedule = some {} → (site.turn dueDays busy t).schedule = some {}) := by
  cases t with
  | restart => exact ⟨rfl, fun _ => rfl⟩
  | tick today =>
    cases hs : site.schedule with
    | none =>
      rw [turn_tick_of_none hs]
      exact ⟨rfl, fun h => nomatch h⟩
    | some schedule =>
      refine ⟨?_, ?_⟩
      · rw [turn_tick_world hs]
        exact hbusy.store_run _ _
      · rintro ⟨⟩
        exact (turn_tick_schedule hs {}).mpr (hbusy.tick_fresh dueDays today site.world)

theorem run_refused (plan : List Turn) (site : Site) :
    (site.run dueDays (turns busy plan)).world.store = site.world.store ∧
      (site.schedule = some {} → (site.run dueDays (turns busy plan)).schedule = some {}) := by
  induction plan generalizing site with
  | nil => exact ⟨rfl, fun h => h⟩
  | cons t rest ih =>
    obtain ⟨hstore, hschedule⟩ := turn_refused hbusy dueDays site t
    obtain ⟨hstore', hschedule'⟩ := ih (site.turn dueDays busy t)
    exact ⟨hstore'.trans hstore, fun h => hschedule' (hschedule h)⟩

theorem schedule_run_refused (before after : List Turn) (site : Site) :
    (site.run dueDays (turns busy (before ++ .restart :: after))).schedule = some {} := by
  rw [turns, List.map_append, run_append]
  exact (run_refused hbusy dueDays after
    ((site.run dueDays (turns busy before)).turn dueDays busy .restart)).2 rfl

end Refused

/-- A day that a new schedule runs again punishes those that its first run invoiced. -/
theorem punishes_again {calm : Chances} (hcalm : calm.Calm) {date : Date}
    (hdate : date.day < Calendar.lastDay) {r : Subscription} (hends : r.EndsOn date)
    (hrenews : r.autoRenew = true) {site₁ site₂ : Site} (hs₁ : site₁.schedule = some {})
    (hr : site₁.world.store.subscriptions = [r]) (hnone : site₁.world.store.invoices = [])
    {package : Package} (hfind : site₁.world.store.findPackage r.packageId = some package)
    (hs₂ : site₂.schedule = some {})
    (hstore : site₂.world.store = (site₁.turn dueDays calm (.tick date)).world.store) :
    (site₁.moment dueDays (calm, .turn (.tick date))).Punishes
      (site₂.moment dueDays (calm, .turn (.tick date))) := by
  have hinvoiced : DailyRun.Invoiced r (site₁.turn dueDays calm (.tick date)).world.store := by
    rw [turn_tick_world hs₁]
    exact DailyRun.invoiced_of_tick hcalm hdate hr hends hrenews hnone hfind
  have hcancelled : DailyRun.Cancelled r (site₂.turn dueDays calm (.tick date)).world.store := by
    rw [turn_tick_world hs₂]
    exact DailyRun.cancelled_of_tick hcalm hdate hends hrenews (hstore ▸ hinvoiced)
  obtain ⟨hr₁, i, hi, hid, hlive, hstatus⟩ := hinvoiced
  obtain ⟨now, hr₂⟩ := hcancelled
  have hadded : (site₁.turn dueDays calm (.tick date)).world.store.invoices =
      site₁.world.store.invoices ++ [i] := by
    rw [hnone, List.nil_append]
    exact hi
  have hissued : (site₁.moment dueDays (calm, .turn (.tick date))).issued = [i] :=
    Moment.issued_eq hadded
  have hrunning : r.status ≠ SubscriptionStatus.cancelled.word := by
    rw [hends.2.1]
    simp [SubscriptionStatus.word]
  refine ⟨rfl, rfl, i, by rw [hissued]; simp, ⟨i, ?_, rfl, hlive, hstatus⟩, r, ?_,
    DailyRun.cancelledRow now r, ?_, hid.symm, rfl, hrunning, rfl, rfl⟩
  · change i ∈ site₂.world.store.invoices
    rw [hstore, hi]
    exact List.mem_singleton_self i
  · change r ∈ site₂.world.store.subscriptions
    rw [hstore, hr₁]
    exact List.mem_singleton_self r
  · change _ ∈ (site₂.turn dueDays calm (.tick date)).world.store.subscriptions
    rw [hr₂]
    exact List.mem_singleton_self _

/-- A subscription that ends on the date and is to be renewed, and its package. -/
def endingStore (date : Date) : Store :=
  { packages := [DailyRun.plainPackage]
    subscriptions := [DailyRun.plainSubscription 1 (.midnight date) true] }

theorem endsOn_midnight {date : Date} (hdate : date.day < Calendar.lastDay) :
    (DailyRun.plainSubscription 1 (.midnight date) true).EndsOn date := by
  obtain ⟨start, fin, hb, hstart, hfin⟩ := Date.bounds?_of_lt hdate
  refine ⟨rfl, rfl, _, rfl, (Date.mem_bounds?_iff hb _).mp ⟨?_, ?_⟩⟩
  · exact Int.le_of_eq hstart
  · change date.day * Calendar.nanosPerDay < fin.nanos
    rw [hfin]
    exact Int.mul_lt_mul_of_pos_right (Int.lt_succ date.day) (by decide)

theorem exists_punished (dueDays : Nat) {before after : List Turn} {date : Date}
    (hdate : date.day < Calendar.lastDay) (hbefore : .tick date ∈ before)
    (hafter : .tick date ∈ after) :
    ∃ (steps : List (Chances × Action)) (start : Store),
      steps.map (·.2) = (before ++ .restart :: after).map .turn ∧
        (start.subscriptions.map (·.id)).Nodup ∧
        ¬ (history dueDays { world := { store := start } } steps).Pairwise
          fun earlier later => ¬ earlier.Punishes later := by
  obtain ⟨first, between, rfl⟩ := List.append_of_mem hbefore
  obtain ⟨again, last, rfl⟩ := List.append_of_mem hafter
  let calm : Chances := fun _ => { now := .first }
  let busy : Chances := fun _ => { now := .first, refusal := some .recordNotFound }
  have hbusy : busy.Refuses := fun _ => ⟨_, rfl⟩
  let day : Chances × Action := (calm, .turn (.tick date))
  let steps := turns busy first ++
    day :: (turns busy (between ++ .restart :: again) ++ day :: turns busy last)
  refine ⟨steps, endingStore date, ?_, by simp [endingStore], ?_⟩
  · simp [steps, day, map_turns]
  intro hspared
  -- all but the two ticks of the date come to nothing
  let site₀ : Site := { world := { store := endingStore date } }
  let site₁ := site₀.run dueDays (turns busy first)
  let site₂ := (site₁.step dueDays day).run dueDays (turns busy (between ++ .restart :: again))
  obtain ⟨hstore₁, hschedule₁⟩ := run_refused hbusy dueDays first site₀
  obtain ⟨hstore₂, _⟩ := run_refused hbusy dueDays (between ++ .restart :: again)
    (site₁.step dueDays day)
  have hschedule₂ := schedule_run_refused hbusy dueDays between again (site₁.step dueDays day)
  have hfind : site₁.world.store.findPackage (.ofNat 9) = some DailyRun.plainPackage := by
    rw [hstore₁]
    rfl
  have hpunishes : (site₁.moment dueDays day).Punishes (site₂.moment dueDays day) := by
    refine punishes_again (fun _ => rfl) hdate (endsOn_midnight hdate) rfl (hschedule₁ rfl) ?_ ?_
      hfind hschedule₂ hstore₂
    · exact congrArg Store.subscriptions hstore₁
    · exact congrArg Store.invoices hstore₁
  have hhistory : site₀.history dueDays steps = site₀.history dueDays (turns busy first) ++
      site₁.moment dueDays day ::
        ((site₁.step dueDays day).history dueDays (turns busy (between ++ .restart :: again)) ++
          site₂.moment dueDays day ::
            (site₂.step dueDays day).history dueDays (turns busy last)) := by
    simp only [steps, history_append, history]
    rfl
  rw [hhistory] at hspared
  have hlater := (List.pairwise_cons.mp (List.pairwise_append.mp hspared).2.1).1
  exact hlater _ (by simp) hpunishes

/-- A restart is harmless, whatever is refused and whoever subscribes, exactly for a plan in which no
date with an end is ticked both before and after a restart. -/
theorem spared_iff_runsApart (dueDays : Nat) (plan : List Turn) :
    (∀ (steps : List (Chances × Action)) (start : Store), steps.map (·.2) = plan.map .turn →
      (start.subscriptions.map (·.id)).Nodup →
        (history dueDays { world := { store := start } } steps).Pairwise
          fun earlier later => ¬ earlier.Punishes later) ↔ Turn.RunsApart plan := by
  constructor
  · rintro h before after rfl date hdate hbefore hafter
    obtain ⟨steps, start, hsteps, hids, hpunished⟩ := exists_punished dueDays hdate hbefore hafter
    exact hpunished (h steps start hsteps hids)
  · intro hapart steps start hsteps hids
    have hstart : Spares [] [] { world := { store := start } } :=
      ⟨rfl, hids, by simp, .nil⟩
    exact hstart.run hapart hsteps

/-- A restart between two ticks of one day, of which the first invoices a subscriber. -/
theorem restart_punishes :
    let start : Store :=
      { packages := [DailyRun.plainPackage]
        subscriptions := [DailyRun.plainSubscription 1 DailyRun.plainNoon true] }
    let past := history 14 { world := { store := start } } (turns DailyRun.plainChances
      [.tick DailyRun.plainDate, .restart, .tick DailyRun.plainDate])
    (start.subscriptions.map (·.id)).Nodup ∧
      past.map (fun m => m.after.subscriptions.map (·.cancellationReason)) =
        [[none], [none], [some DailyRun.pendingInvoiceReason]] ∧
      ¬ past.Pairwise fun earlier later => ¬ earlier.Punishes later := by
  decide +kernel

end Site

end RecurringBilling
