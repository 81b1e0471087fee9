import RecurringBilling.Proofs.DailyRun.Issues
import RecurringBilling.Proofs.Schedule.History
import RecurringBilling.Proofs.Schedule.Passes

/-! What a tick makes of the store: either nothing is done but to expire subscriptions, or the day is
run, and then it was not run before. -/

namespace RecurringBilling

open DailyRun

namespace Pass

variable {env : Chances} {dueDays : Nat} {w w' : World} {pass : Pass} {passes : List Pass}

theorem Leads.keeps {inv : Store → Prop} (hinv : DailyRun.Keeps inv)
    (h : pass.Leads env dueDays w w') (hw : inv w.store) : inv w'.store := by
  rw [← h.world]
  cases pass with
  | halted day => exact (hinv.run dueDays day).run env hw
  | failed day => exact (hinv.run dueDays day).run env hw
  | ran day incomplete => exact (hinv.run dueDays day).run env hw
  | repeated day isRefused => exact (hinv.runExpirations day).run env hw

theorem Lead.keeps {inv : Store → Prop} (hinv : DailyRun.Keeps inv)
    (h : Lead env dueDays w passes w') (hw : inv w.store) : inv w'.store := by
  induction h with
  | nil => exact hw
  | cons first _ ih => exact ih (first.keeps hinv hw)

theorem Leads.onlyExpired {day : Date} {isRefused : Bool}
    (h : (repeated day isRefused).Leads env dueDays w w') : OnlyExpired w.store w'.store := by
  rw [← h.world]
  exact ((keeps_onlyExpired w.store).runExpirations day).run env (.refl w.store)

theorem Leads.store_of_failed {day : Date} (h : (failed day).Leads env dueDays w w') :
    w'.store = w.store := by
  obtain ⟨e, h⟩ := h
  have hend := ending_run env dueDays day w
  rw [h] at hend
  cases hend with
  | failed e hstore => exact hstore

theorem Leads.store_of_halted {day : Date} (h : (halted day).Leads env dueDays w w') :
    w'.store = w.store := by
  obtain ⟨fault, h⟩ := h
  have hend := ending_run env dueDays day w
  rw [h] at hend
  cases hend with
  | halted _ fault => rfl

end Pass

namespace Schedule

/-- What a tick makes of its schedule and of the store. -/
inductive TickEffect (today : Date) (s : Schedule) (before : Store) :
    Outcome Schedule → Store → Prop where
  | idle {outcome : Outcome Schedule} {after : Store} (h : OnlyExpired before after)
      (hlast : ∀ s', outcome = .done s' → s'.lastProcessed = s.lastProcessed) :
      TickEffect today s before outcome after
  | ran {s' : Schedule} {after : Store} (hdate : today.day < Calendar.lastDay)
      (hdue : isDue s.lastProcessed today = true) (hlast : s'.lastProcessed = some today)
      (hissued : Issued today before after) : TickEffect today s before (.done s') after

variable (env : Chances) (dueDays : Nat)

theorem retry_effect (s : Schedule) (w : World) :
    OnlyExpired w.store (env.run s.retry w).2.store ∧
      ∀ s', (env.run s.retry w).1 = .done s' → s'.lastProcessed = s.lastProcessed := by
  obtain ⟨passes, hr, hlead⟩ := Schedule.retries env 0 s w
  generalize env.run s.retry w = x at hr hlead ⊢
  obtain ⟨outcome, w'⟩ := x
  cases hr with
  | nothingDue hdue =>
    cases hlead
    refine ⟨.refl _, ?_⟩
    rintro _ ⟨⟩
    rfl
  | halted hdue hdate fault =>
    cases hlead
    exact ⟨.refl _, fun s' hs => nomatch hs⟩
  | refused hdue =>
    obtain _ | ⟨hfirst, _ | _⟩ := hlead
    refine ⟨hfirst.onlyExpired, ?_⟩
    rintro _ ⟨⟩
    rfl
  | done hdue =>
    obtain _ | ⟨hfirst, _ | _⟩ := hlead
    refine ⟨hfirst.onlyExpired, ?_⟩
    rintro _ ⟨⟩
    rfl

theorem advance_effect (s : Schedule) (today : Date) {w : World}
    (hids : (w.store.subscriptions.map (·.id)).Nodup) :
    TickEffect today s w.store (env.run (s.advance dueDays today) w).1
      (env.run (s.advance dueDays today) w).2.store := by
  obtain ⟨passes, ha, hlead⟩ := Schedule.advances env dueDays s today w
  generalize env.run (s.advance dueDays today) w = x at ha hlead ⊢
  obtain ⟨outcome, w'⟩ := x
  cases ha with
  | notDue hdue =>
    cases hlead
    refine .idle (.refl _) ?_
    rintro _ ⟨⟩
    rfl
  | halted hdue fault =>
    obtain _ | ⟨hfirst, _ | _⟩ := hlead
    exact .idle (.of_eq hfirst.store_of_halted) fun s' hs => nomatch hs
  | failed hdue =>
    obtain _ | ⟨hfirst, _ | _⟩ := hlead
    refine .idle (.of_eq hfirst.store_of_failed) ?_
    rintro _ ⟨⟩
    rfl
  | ran hdue hdate incomplete =>
    obtain _ | ⟨hfirst, _ | _⟩ := hlead
    obtain ⟨r, hrun, _⟩ := hfirst
    exact .ran hdate hdue rfl (issued_of_run env dueDays hids hrun)

theorem tick_effect (s : Schedule) (today : Date) {w : World}
    (hids : (w.store.subscriptions.map (·.id)).Nodup) :
    TickEffect today s w.store (env.run (s.tick dueDays today) w).1
      (env.run (s.tick dueDays today) w).2.store := by
  obtain ⟨hexpired, hlast⟩ := retry_effect env s w
  simp only [tick, Chances.run_bind]
  generalize env.run s.retry w = x at hexpired hlast ⊢
  obtain ⟨outcome, w₁⟩ := x
  cases outcome with
  | failed e => exact .idle hexpired fun s' hs => nomatch hs
  | halted fault => exact .idle hexpired fun s' hs => nomatch hs
  | done s₁ =>
    have hlast₁ : s₁.lastProcessed = s.lastProcessed := hlast s₁ rfl
    have ha := advance_effect env dueDays s₁ today (w := w₁) (hexpired.ids ▸ hids)
    simp only [Outcome.andThen_done]
    generalize env.run (s₁.advance dueDays today) w₁ = x at ha ⊢
    obtain ⟨outcome, w₂⟩ := x
    cases ha with
    | idle h hlast' =>
      exact .idle (hexpired.trans h) fun s' hs => (hlast' s' hs).trans hlast₁
    | ran hdate hdue hlast' hissued => exact .ran hdate (hlast₁ ▸ hdue) hlast' (hexpired.issued hissued)

theorem keeps_tick {inv : Store → Prop} (hinv : DailyRun.Keeps inv) (s : Schedule) (today : Date)
    {w : World} (hw : inv w.store) : inv (env.run (s.tick dueDays today) w).2.store := by
  obtain ⟨passes₁, _, hlead₁⟩ := Schedule.retries env dueDays s w
  have hw₁ := hlead₁.keeps hinv hw
  simp only [tick, Chances.run_bind]
  generalize env.run s.retry w = x at hw₁ ⊢
  obtain ⟨outcome, w₁⟩ := x
  cases outcome with
  | failed e => exact hw₁
  | halted fault => exact hw₁
  | done s₁ =>
    obtain ⟨passes₂, _, hlead₂⟩ := Schedule.advances env dueDays s₁ today w₁
    exact hlead₂.keeps hinv hw₁

end Schedule

namespace Site

variable {dueDays : Nat} {env : Chances} {site : Site} {today : Date}

/-- What a tick makes of a site: the schedule forgets nothing, and if the day is run it is the last
that was. -/
inductive Ticks (today : Date) (site next : Site) : Prop where
  | idle (h : OnlyExpired site.world.store next.world.store)
      (hlast : ∀ schedule', next.schedule = some schedule' → ∃ schedule,
        site.schedule = some schedule ∧ schedule'.lastProcessed = schedule.lastProcessed) :
      Ticks today site next
  | ran {schedule : Schedule} (hs : site.schedule = some schedule)
      (hdate : today.day < Calendar.lastDay)
      (hdue : Schedule.isDue schedule.lastProcessed today = true)
      (hlast : ∀ schedule', next.schedule = some schedule' → schedule'.lastProcessed = some today)
      (hissued : Issued today site.world.store next.world.store) : Ticks today site next

theorem ticks (hids : (site.world.store.subscriptions.map (·.id)).Nodup) :
    Ticks today site (site.turn dueDays env (.tick today)) := by
  cases hs : site.schedule with
  | none =>
    rw [turn_tick_of_none hs]
    exact .idle (.refl _) fun schedule' hs' => ⟨schedule', hs', rfl⟩
  | some schedule =>
    have hworld : (site.turn dueDays env (.tick today)).world =
        (env.run (schedule.tick dueDays today) site.world).2 := turn_tick_world hs
    have hdone : ∀ schedule', (site.turn dueDays env (.tick today)).schedule = some schedule' →
        (env.run (schedule.tick dueDays today) site.world).1 = .done schedule' :=
      fun schedule' => (turn_tick_schedule hs schedule').mp
    have heffect := Schedule.tick_effect env dueDays schedule today hids
    rw [← hworld] at heffect
    generalize (env.run (schedule.tick dueDays today) site.world).1 = outcome at hdone heffect
    cases heffect with
    | idle hexpired hlast =>
      exact .idle hexpired fun schedule' hs' => ⟨schedule, hs, hlast schedule' (hdone schedule' hs')⟩
    | ran hdate hdue hlast hissued =>
      refine .ran hs hdate hdue ?_ hissued
      intro schedule' hs'
      cases hdone schedule' hs'
      exact hlast

theorem keeps_turn {inv : Store → Prop} (hinv : DailyRun.Keeps inv) (t : Turn)
    (hsite : inv site.world.store) : inv (site.turn dueDays env t).world.store := by
  cases t with
  | restart => exact hsite
  | tick today =>
    cases hs : site.schedule with
    | none => rwa [turn_tick_of_none hs]
    | some schedule =>
      rw [turn_tick_world hs]
      exact Schedule.keeps_tick env dueDays hinv schedule today hsite

end Site

end RecurringBilling
