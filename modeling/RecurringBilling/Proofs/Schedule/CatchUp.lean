import RecurringBilling.Proofs.DailyRun.DayEffect
import RecurringBilling.Proofs.Schedule.Effects
import RecurringBilling.Proofs.Schedule.Rerun
import RecurringBilling.Worker.Config

/-! Days whose renewals could not be listed. The schedule stays as it was, so that a later tick of
the day makes up for it. A tick of another day does not, since a tick renews no day but its own. -/

namespace RecurringBilling

theorem Date.eq_of_le {a b : Date} (hab : a ≤ b) (hba : b ≤ a) : a = b := by
  have hday : a.day = b.day := Int.le_antisymm hab hba
  cases a
  cases b
  cases hday
  rfl

theorem Instant.day_lt_of_le {t t' : Instant} (h : t.nanos + Calendar.nanosPerDay ≤ t'.nanos) :
    t.date.day < t'.date.day := by
  have hday : (t.nanos + Calendar.nanosPerDay) / Calendar.nanosPerDay ≤ t'.date.day :=
    Int.ediv_le_ediv (by decide) h
  rw [Int.add_ediv_of_dvd_right (Int.dvd_refl _), Int.ediv_self (by decide)] at hday
  exact Int.lt_of_add_one_le hday

namespace Schedule

/-- Ticks on some dates, and one more on a last date, in which nothing is refused. -/
structure Recovery (dueDays : Nat) (dates : List Date) (today : Date) where
  env : Chances
  store : Store
  schedule : Schedule
  before : World
  next : Schedule
  after : World
  ticked : env.run (dates.foldlM (tick dueDays) {}) { store } = (.done schedule, before)
  recovered : env.run (schedule.tick dueDays today) before = (.done next, after)
  unrefused : ∀ c ∈ after.calls.drop before.calls.length, c.isRefused = false

/-- The last day of a schedule is one that was ticked and renewed. -/
def LastRenewed (s : Schedule) (ticked : List Date) (past : List Listing) : Prop :=
  ∀ last, s.lastProcessed = some last →
    last ∈ ticked ∧ last.day < Calendar.lastDay ∧ ⟨last, some true, false⟩ ∈ past

variable {env : Chances} {dueDays : Nat} {s s' : Schedule} {w w' : World} {today : Date}
  {ticked dates : List Date} {past listings : List Listing}

theorem le_of_not_isDue (hdue : isDue s.lastProcessed today = false) :
    ∃ last, s.lastProcessed = some last ∧ today ≤ last := by
  cases hlast : s.lastProcessed with
  | none => simp [isDue, hlast] at hdue
  | some last =>
    have hnot : ¬ last < today := by simpa [isDue, hlast] using hdue
    exact ⟨last, rfl, Int.not_lt.mp hnot⟩

/-- A tick lists no renewals but those of its day. -/
theorem Ticked.renews (ht : Ticked today s listings s') {day : Date} {isRefused : Bool}
    (hmem : ⟨day, some true, isRefused⟩ ∈ listings) : day = today := by
  obtain ⟨first, s₁, last, hr, ha, rfl⟩ := ht
  rcases List.mem_append.mp hmem with hmem | hmem
  · cases hr <;> simp at hmem
  · cases ha with
    | notDue hdue => simp at hmem
    | refused hdue => exact (show day = today ∧ _ by simpa using hmem).1
    | incomplete hdue => exact (show day = today ∧ _ by simpa using hmem).1
    | done hdue => exact (show day = today ∧ _ by simpa using hmem).1

/-- A tick renews its day, unless that is not to be run or the listing is refused. -/
theorem Ticked.last (ht : Ticked today s listings s') :
    s'.lastProcessed = s.lastProcessed ∧
        (isDue s.lastProcessed today = false ∨ ⟨today, some true, true⟩ ∈ listings) ∨
      s'.lastProcessed = some today ∧ ⟨today, some true, false⟩ ∈ listings := by
  obtain ⟨first, s₁, last, hr, ha, rfl⟩ := ht
  have hkept : s₁.lastProcessed = s.lastProcessed := by cases hr <;> rfl
  cases ha with
  | notDue hdue => exact .inl ⟨hkept, .inl (hkept ▸ hdue)⟩
  | refused hdue => exact .inl ⟨hkept, .inr (by simp)⟩
  | incomplete hdue => exact .inr ⟨rfl, by simp⟩
  | done hdue => exact .inr ⟨rfl, by simp⟩

theorem ticked_of_done (hrun : env.run (s.tick dueDays today) w = (.done s', w')) :
    ∃ calls, w'.calls = w.calls ++ calls ∧ Ticked today s (Call.listings calls) s' := by
  obtain ⟨calls, hw, _, hs, ht⟩ := (lists_tick env dueDays s today).calls_of_done hrun
  cases hs
  exact ⟨calls, hw, ht⟩

/-- A day that a tick has run has an end. -/
theorem lt_lastDay_of_tick (hrun : env.run (s.tick dueDays today) w = (.done s', w')) :
    s'.lastProcessed = s.lastProcessed ∨ today.day < Calendar.lastDay := by
  obtain ⟨-, hlast⟩ := retry_effect env s w
  simp only [tick, Chances.run_bind] at hrun
  generalize env.run s.retry w = x at hlast hrun
  obtain ⟨outcome, w₁⟩ := x
  cases outcome with
  | failed e => cases hrun
  | halted fault => cases hrun
  | done s₁ =>
    obtain ⟨passes, ha, -⟩ := Schedule.advances env dueDays s₁ today w₁
    simp only [Outcome.andThen_done] at hrun
    rw [hrun] at ha
    cases ha with
    | notDue hdue => exact .inl (hlast s' rfl)
    | failed hdue => exact .inl (hlast s' rfl)
    | ran hdue hdate incomplete => exact .inr hdate

theorem LastRenewed.tick (h : s.LastRenewed ticked (Call.listings w.calls))
    (hrun : env.run (s.tick dueDays today) w = (.done s', w')) :
    s'.LastRenewed (ticked ++ [today]) (Call.listings w'.calls) := by
  obtain ⟨calls, hw, ht⟩ := ticked_of_done hrun
  intro last hlast
  rw [hw, Call.listings_append]
  by_cases hsame : s'.lastProcessed = s.lastProcessed
  · obtain ⟨hmem, hdate, hpast⟩ := h last (hsame ▸ hlast)
    exact ⟨List.mem_append_left _ hmem, hdate, List.mem_append_left _ hpast⟩
  · obtain ⟨htoday, hrenewed⟩ := ht.last.resolve_left fun h => hsame h.1
    obtain rfl : today = last := Option.some.inj (htoday.symm.trans hlast)
    exact ⟨by simp, (lt_lastDay_of_tick hrun).resolve_left hsame, List.mem_append_right _ hrenewed⟩

theorem LastRenewed.ticks (h : s.LastRenewed ticked (Call.listings w.calls))
    (hrun : env.run (dates.foldlM (Schedule.tick dueDays) s) w = (.done s', w')) :
    s'.LastRenewed (ticked ++ dates) (Call.listings w'.calls) := by
  induction dates generalizing s w ticked with
  | nil =>
    cases hrun
    rwa [List.append_nil]
  | cons today rest ih =>
    simp only [List.foldlM_cons, Chances.run_bind] at hrun
    cases htick : env.run (s.tick dueDays today) w with
    | mk outcome w₁ =>
    rw [htick] at hrun
    cases outcome with
    | failed e => cases hrun
    | halted fault => cases hrun
    | done s₁ =>
      have hrest := ih (h.tick htick) hrun
      rwa [List.append_assoc] at hrest

namespace Recovery

variable (r : Recovery dueDays dates today)

theorem lastRenewed : r.schedule.LastRenewed dates (Call.listings r.before.calls) := by
  have hnone : LastRenewed {} [] (Call.listings ({ store := r.store } : World).calls) :=
    fun last hlast => nomatch hlast
  simpa using hnone.ticks r.ticked

theorem ticked_calls : ∃ calls, r.after.calls = r.before.calls ++ calls ∧
    Ticked today r.schedule (Call.listings calls) r.next ∧
      ∀ day autoRenew, ⟨day, autoRenew, true⟩ ∉ Call.listings calls := by
  obtain ⟨calls, hcalls, ht⟩ := ticked_of_done r.recovered
  refine ⟨calls, hcalls, ht, fun day autoRenew hmem => ?_⟩
  obtain ⟨c, hc, -, hrefused⟩ := (Call.refused_iff calls day autoRenew).mpr hmem
  have hnot := r.unrefused c (by simpa [hcalls] using hc)
  rw [hnot] at hrefused
  cases hrefused

/-- What the last tick renews is its day, and nothing else. -/
theorem renewed_of_renewed {day : Date}
    (h : Call.Answered r.after.calls (.listExpiring day (some true))) :
    Call.Answered r.before.calls (.listExpiring day (some true)) ∨ day = today := by
  obtain ⟨calls, hcalls, ht, -⟩ := r.ticked_calls
  rw [Call.answered_iff, hcalls, Call.listings_append] at h
  rw [Call.answered_iff]
  exact (List.mem_append.mp h).imp_right ht.renews

theorem renewed_of_before {day : Date}
    (h : Call.Answered r.before.calls (.listExpiring day (some true))) :
    Call.Answered r.after.calls (.listExpiring day (some true)) := by
  obtain ⟨calls, hcalls, -⟩ := r.ticked_calls
  obtain ⟨c, hc, hrequest⟩ := h
  exact ⟨c, hcalls ▸ List.mem_append_left _ hc, hrequest⟩

/-- After the last tick its day was renewed, or a later one was. -/
theorem exists_renewed : ∃ last ∈ dates ++ [today], today ≤ last ∧ last.day < Calendar.lastDay ∧
    Call.Answered r.after.calls (.listExpiring last (some true)) := by
  have hnext := r.lastRenewed.tick r.recovered
  have hreached : ∃ last, r.next.lastProcessed = some last ∧ today ≤ last := by
    obtain ⟨calls, -, ht, hunrefused⟩ := r.ticked_calls
    rcases ht.last with ⟨hkept, hdue | hrefused⟩ | ⟨hlast, -⟩
    · rw [hkept]
      exact le_of_not_isDue hdue
    · exact absurd hrefused (hunrefused _ _)
    · exact ⟨today, hlast, Int.le_refl _⟩
  obtain ⟨last, hlast, hle⟩ := hreached
  obtain ⟨hmem, hdate, hrenewed⟩ := hnext last hlast
  exact ⟨last, hmem, hle, hdate, (Call.answered_iff _ _ _).mpr hrenewed⟩

/-- Ticks that are a day or more apart, as they are by default, make up for no day. -/
theorem renewed_iff_of_daily {interval : Nat} (hinterval : WorkerConfig.daySeconds ≤ interval)
    {ticks : List Instant} {now : Instant}
    (hapart : ∀ t ∈ ticks, t.nanos + interval * Calendar.nanosPerSecond ≤ now.nanos)
    (r : Recovery dueDays (ticks.map (·.date)) now.date) {day : Date}
    (hday : day ∈ ticks.map (·.date)) :
    Call.Answered r.after.calls (.listExpiring day (some true)) ↔
      Call.Answered r.before.calls (.listExpiring day (some true)) := by
  obtain ⟨t, ht, rfl⟩ := List.mem_map.mp hday
  have hlater : t.nanos + Calendar.nanosPerDay ≤ now.nanos := by
    have hseconds := hapart t ht
    simp only [Calendar.nanosPerDay, Calendar.nanosPerSecond, WorkerConfig.daySeconds] at *
    omega
  have hne : t.date ≠ now.date := fun heq =>
    absurd (congrArg Date.day heq) (Int.ne_of_lt (Instant.day_lt_of_le hlater))
  exact ⟨fun h => (r.renewed_of_renewed h).resolve_right hne, r.renewed_of_before⟩

end Recovery

/-- A listing of renewals that failed. -/
def failedListing (day : Date) : Call :=
  ⟨.listExpiring day (some true), .error (.refused "connection reset")⟩

/-- The first requests are refused, and then none is. -/
def outage (n : Nat) : Chances := fun w =>
  { now := .first
    refusal := if w.calls.length < n then some (.refused "connection reset") else none }

theorem refusal_outage {n : Nat} (h : n ≤ w.calls.length) : (outage n w).refusal = none :=
  if_neg (Nat.not_lt.mpr h)

theorem run_ticks_outage (dueDays : Nat) (dates : List Date) {n : Nat} {w : World}
    (hn : w.calls.length + dates.length ≤ n) :
    (outage n).run (dates.foldlM (tick dueDays) {}) w =
      (.done {}, { w with calls := w.calls ++ dates.map failedListing }) := by
  induction dates generalizing w with
  | nil => simp
  | cons today rest ih =>
    have hrefused : (outage n w).refusal = some (.refused "connection reset") := by
      simp only [List.length_cons] at hn
      simp [outage, show w.calls.length < n by omega]
    have hrest : (w.called (.listExpiring today (some true))
        (.error (.refused "connection reset"))).calls.length + rest.length ≤ n := by
      simp only [World.called, List.length_append, List.length_cons, List.length_nil] at hn ⊢
      omega
    rw [List.foldlM_cons, Chances.run_bind, run_tick_refused hrefused, Outcome.andThen_done,
      ih hrest]
    simp [World.called, failedListing]

/-- A day on which no subscription ends is run with its two listings, and nothing is changed. -/
theorem run_tick_idle (env : Chances) (dueDays : Nat) (hdate : today.day < Calendar.lastDay)
    (hnone : ∀ r ∈ w.store.subscriptions, ¬ r.EndsOn today)
    (hcalm : ∀ w₁ : World, w.calls.length ≤ w₁.calls.length → (env w₁).refusal = none) :
    ∃ s' w', env.run (({} : Schedule).tick dueDays today) w = (.done s', w') ∧
      w'.store = w.store ∧ w'.calls = w.calls ++ [⟨.listExpiring today (some true), .ok []⟩,
        ⟨.listExpiring today (some false), .ok []⟩] := by
  have hlisted (renews : Bool) (w₁ : World) (hs : w₁.store = w.store)
      (hw₁ : w.calls.length ≤ w₁.calls.length) :
      w₁.answer (env w₁) (.listExpiring today (some renews)) =
        (.ok (.ok []), w₁.called (.listExpiring today (some renews)) (.ok [])) := by
    have hempty : w₁.store.expiring today (some renews) = .ok [] :=
      Store.expiring_eq_nil hdate fun r hr hends => (hnone r (hs ▸ hr) hends).elim
    have hanswer : w₁.store.answer (env w₁).now (.listExpiring today (some renews)) =
        .ok ([], w₁.store) := by rw [Store.answer, hempty]; rfl
    simp only [World.answer, hcalm w₁ hw₁, hanswer]
    rfl
  let w₁ := w.called (.listExpiring today (some true)) (.ok [])
  have hfirst := hlisted true w rfl (Nat.le_refl _)
  have hsecond := hlisted false w₁ rfl (by simp [w₁, World.called])
  refine ⟨⟨some today, none⟩, w₁.called (.listExpiring today (some false)) (.ok []), ?_, rfl,
    by simp [w₁, World.called]⟩
  simp [tick, retry, advance, isDue, processDate, DailyRun.run, DailyRun.renewals,
    DailyRun.expirationsOrIncomplete, DailyRun.expirations, hfirst, w₁, hsecond]

/-- When the storage is back after all the ticks, then nothing is refused in the last one. -/
theorem exists_recovery (dueDays : Nat) (dates : List Date) (hdate : today.day < Calendar.lastDay) :
    ∃ r : Recovery dueDays dates today, r.before.calls = dates.map failedListing := by
  let start : World := { store := {} }
  let before : World := { store := {}, calls := dates.map failedListing }
  have hticked : (outage dates.length).run (dates.foldlM (tick dueDays) {}) start =
      (.done {}, before) := run_ticks_outage dueDays dates (by simp [start])
  obtain ⟨next, after, hrecovered, -, hcalls⟩ :=
    run_tick_idle (outage dates.length) dueDays (w := before) hdate (by simp [before])
      fun w hw => refusal_outage (by simpa [before] using hw)
  exact ⟨⟨outage dates.length, {}, {}, before, next, after, hticked, hrecovered,
    by simp [hcalls]⟩, rfl⟩

/-- A day is made up for by a tick in which nothing is refused exactly if the tick is still on that
day. So that all days are made up for, whatever was refused, the ticks must be on one day. -/
theorem failed_days_caught_up_iff (dueDays : Nat) (hlast : ∀ day ∈ dates, day ≤ today) :
    (∀ r : Recovery dueDays dates today, ∀ day ∈ dates,
      (Call.Answered r.after.calls (.listExpiring day (some true)) ↔
        Call.Answered r.before.calls (.listExpiring day (some true)) ∨ day = today)) ∧
    ((∀ r : Recovery dueDays dates today, ∀ day ∈ dates,
        Call.Answered r.after.calls (.listExpiring day (some true))) ↔
      (today.day < Calendar.lastDay → ∀ day ∈ dates, day = today)) := by
  have htoday : ∀ r : Recovery dueDays dates today, today.day < Calendar.lastDay ∧
      Call.Answered r.after.calls (.listExpiring today (some true)) := by
    intro r
    obtain ⟨last, hmem, hle, hdate, hrenewed⟩ := r.exists_renewed
    have hge : last ≤ today := by
      rcases List.mem_append.mp hmem with hmem | hmem
      · exact hlast last hmem
      · rw [List.mem_singleton.mp hmem]
        exact Int.le_refl _
    obtain rfl := Date.eq_of_le hge hle
    exact ⟨hdate, hrenewed⟩
  refine ⟨fun r day _ => ⟨r.renewed_of_renewed, ?_⟩, fun h hdate day hday => ?_,
    fun h r day hday => ?_⟩
  · rintro (hbefore | rfl)
    · exact r.renewed_of_before hbefore
    · exact (htoday r).2
  · obtain ⟨r, hcalls⟩ := exists_recovery dueDays dates hdate
    rcases r.renewed_of_renewed (h r day hday) with ⟨c, hc, -, hanswered⟩ | heq
    · rw [hcalls] at hc
      obtain ⟨_, _, rfl⟩ := List.mem_map.mp hc
      simp [failedListing] at hanswered
    · exact heq
  · obtain ⟨hdate, hrenewed⟩ := htoday r
    rw [h hdate day hday]
    exact hrenewed

/-- A tick on one day and one on the next. -/
theorem failed_days_caught_up_iff_overnight :
    let first : Date := ⟨19884, by decide, by decide⟩
    let second : Date := ⟨19885, by decide, by decide⟩
    (∀ day ∈ [first], day ≤ second) ∧
      ¬ ∀ r : Recovery 14 [first] second, ∀ day ∈ [first],
        Call.Answered r.after.calls (.listExpiring day (some true)) := by
  intro first second
  have hlast : ∀ day ∈ [first], day ≤ second := by decide
  refine ⟨hlast, fun h => ?_⟩
  have heq := (failed_days_caught_up_iff 14 hlast).2.mp h (by decide) first (by simp)
  exact absurd heq (by decide)

/-- The renewals of the first day are refused, and those of the next are not. The subscription that
ended on the first day is not invoiced. -/
theorem renewals_lost_overnight :
    let first : Date := ⟨19884, by decide, by decide⟩
    let second : Date := ⟨19885, by decide, by decide⟩
    let start : Store :=
      { packages := [DailyRun.plainPackage]
        subscriptions := [DailyRun.plainSubscription 1 DailyRun.plainNoon true] }
    ∃ r : Recovery 14 [first] second, r.store = start ∧
      Call.Refused r.before.calls (.listExpiring first (some true)) ∧
      ¬ Call.Answered r.after.calls (.listExpiring first (some true)) ∧
      r.after.store.invoices = [] := by
  intro first second start
  let before : World := { store := start, calls := [first].map failedListing }
  have hticked : (outage 1).run ([first].foldlM (tick 14) {}) { store := start } =
      (.done {}, before) := run_ticks_outage 14 [first] (by decide)
  have hnone : ∀ r ∈ start.subscriptions, ¬ r.EndsOn second := by
    rintro r hr ⟨-, -, t, ht, hday⟩
    obtain rfl := List.mem_singleton.mp hr
    obtain rfl : DailyRun.plainNoon = t := Option.some.inj ht
    exact absurd hday (by decide)
  obtain ⟨next, after, hrecovered, hstore, hcalls⟩ :=
    run_tick_idle (outage 1) 14 (w := before) (by decide) hnone fun w hw => refusal_outage hw
  let r : Recovery 14 [first] second :=
    ⟨outage 1, start, {}, before, next, after, hticked, hrecovered, by simp [hcalls]⟩
  refine ⟨r, rfl, ?_, fun h => ?_, congrArg Store.invoices hstore⟩
  · exact ⟨failedListing first, List.mem_singleton_self _, rfl, rfl⟩
  · rcases r.renewed_of_renewed h with ⟨c, hc, -, hanswered⟩ | heq
    · obtain rfl := List.mem_singleton.mp hc
      cases hanswered
    · exact absurd heq (by decide)

end Schedule

end RecurringBilling
