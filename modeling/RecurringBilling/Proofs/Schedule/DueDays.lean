import RecurringBilling.Proofs.Schedule.Ticks

/-! The days whose expirations are still to come. A schedule has room for one such day. It keeps it
until its expirations could be listed, unless the expirations of a newer day are refused as well. -/

namespace RecurringBilling

namespace Schedule

/-- What a schedule knows of the listings so far: no day after the last was renewed, only renewed
days were expired, and the one that is due was not. -/
structure Tracks (s : Schedule) (past : List Listing) : Prop where
  renewed : ∀ day, ⟨day, some true, false⟩ ∈ past → ∃ last, s.lastProcessed = some last ∧ day ≤ last
  expired : ∀ day, ⟨day, some false, false⟩ ∈ past → ⟨day, some true, false⟩ ∈ past
  due : ∀ day, s.expirationsDue = some day →
    ⟨day, some true, false⟩ ∈ past ∧ ⟨day, some false, false⟩ ∉ past

/-- A day that was renewed and will not be expired. -/
def Lost (s : Schedule) (past : List Listing) (day : Date) : Prop :=
  ⟨day, some true, false⟩ ∈ past ∧ ⟨day, some false, false⟩ ∉ past ∧ s.expirationsDue ≠ some day

/-- The expirations of two days were refused. -/
def Overlap (listings : List Listing) : Prop :=
  ∃ day day', ⟨day, some false, true⟩ ∈ listings ∧ ⟨day', some false, true⟩ ∈ listings ∧ day ≠ day'

variable {s s' : Schedule} {past listings : List Listing} {today : Date}

theorem tracks_nil : Tracks {} [] := ⟨by simp, by simp, by simp⟩

theorem Tracks.renewed_lt (h : s.Tracks past) (hdue : isDue s.lastProcessed today = true)
    {day : Date} (hmem : ⟨day, some true, false⟩ ∈ past) : day.day < today.day := by
  obtain ⟨last, hlast, hle⟩ := h.renewed day hmem
  have hlt : last < today := lt_of_isDue hdue hlast
  exact Int.lt_of_le_of_lt hle hlt

theorem Tracks.not_renewed (h : s.Tracks past) (hdue : isDue s.lastProcessed today = true) :
    ⟨today, some true, false⟩ ∉ past := fun hmem => Int.lt_irrefl _ (h.renewed_lt hdue hmem)

/-- A run of a new day renews that day alone. -/
theorem Tracks.renewed_le (h : s.Tracks past) (hdue : isDue s.lastProcessed today = true)
    (hlistings : ∀ day, ⟨day, some true, false⟩ ∈ listings → day = today) {day : Date}
    (hmem : ⟨day, some true, false⟩ ∈ past ++ listings) : day ≤ today := by
  rcases List.mem_append.mp hmem with hmem | hmem
  · exact Int.le_of_lt (h.renewed_lt hdue hmem)
  · rw [hlistings day hmem]
    exact Int.le_refl _

theorem Tracks.retried (h : s.Tracks past) (hr : Retried s listings s') :
    s'.Tracks (past ++ listings) ∧ ∀ day, s'.Lost (past ++ listings) day ↔ s.Lost past day := by
  cases hr with
  | nothingDue hdue => simpa using h
  | refused hdue =>
    refine ⟨⟨by simpa using h.renewed, by simpa using h.expired, by simpa using h.due⟩, ?_⟩
    simp [Lost]
  | @done due hdue =>
    have hrenewed := (h.due due hdue).1
    refine ⟨⟨by simpa using h.renewed, ?_, by simp⟩, ?_⟩
    · intro day hmem
      rcases List.mem_append.mp hmem with hmem | hmem
      · exact List.mem_append_left _ (h.expired day hmem)
      · obtain rfl : day = due := by simpa using hmem
        exact List.mem_append_left _ hrenewed
    · intro day
      simp [Lost, hdue, eq_comm]

theorem Tracks.advanced (h : s.Tracks past) (ha : Advanced today s listings s') :
    s'.Tracks (past ++ listings) ∧ ∀ day, s'.Lost (past ++ listings) day ↔
      s.Lost past day ∨ s.expirationsDue = some day ∧ ⟨today, some false, true⟩ ∈ listings := by
  cases ha with
  | notDue hdue => simpa using h
  | refused hdue =>
    refine ⟨⟨by simpa using h.renewed, by simpa using h.expired, by simpa using h.due⟩, ?_⟩
    simp [Lost]
  -- the new day takes the place of the one that was due
  | incomplete hdue =>
    have hnew := h.not_renewed hdue
    have hunexpired : ⟨today, some false, false⟩ ∉ past := fun hmem => hnew (h.expired today hmem)
    refine ⟨⟨?_, ?_, ?_⟩, ?_⟩
    · exact fun day hmem => ⟨today, rfl, h.renewed_le hdue (by simp) hmem⟩
    · intro day hmem
      have hmem : ⟨day, some false, false⟩ ∈ past := by simpa using hmem
      exact List.mem_append_left _ (h.expired day hmem)
    · intro day hday
      obtain rfl : today = day := by simpa using hday
      simp [hunexpired]
    · intro day
      by_cases hday : day = today
      · subst hday
        have hnot : s.expirationsDue ≠ some day := fun hs => hnew (h.due day hs).1
        simp [Lost, hnew, hnot]
      · by_cases hs : s.expirationsDue = some day
        · have hpast := h.due day hs
          simp [Lost, hpast, hs, Ne.symm hday]
        · simp [Lost, hs, hday, Ne.symm hday]
  | done hdue =>
    have hnew := h.not_renewed hdue
    refine ⟨⟨?_, ?_, ?_⟩, ?_⟩
    · exact fun day hmem => ⟨today, rfl, h.renewed_le hdue (by simp) hmem⟩
    · intro day hmem
      rcases List.mem_append.mp hmem with hmem | hmem
      · exact List.mem_append_left _ (h.expired day hmem)
      · obtain rfl : day = today := by simpa using hmem
        simp
    · intro day hday
      have hpast := h.due day hday
      have hne : day ≠ today := fun he => hnew (he ▸ hpast.1)
      simp [hpast, hne]
    · intro day
      by_cases hday : day = today
      · subst hday
        simp [Lost, hnew]
      · simp [Lost, hday]

theorem Retried.refuses_iff (hr : Retried s listings s') (day : Date) :
    ⟨day, some false, true⟩ ∈ listings ↔ s'.expirationsDue = some day := by
  cases hr with
  | nothingDue hdue => simp [hdue]
  | refused hdue => simp [hdue, eq_comm]
  | done hdue => simp

theorem Advanced.refuses (ha : Advanced today s listings s') {day : Date}
    (hmem : ⟨day, some false, true⟩ ∈ listings) :
    day = today ∧ isDue s.lastProcessed today = true := by
  cases ha with
  | notDue hdue => simp at hmem
  | refused hdue => simp at hmem
  | incomplete hdue => exact ⟨by simpa using hmem, hdue⟩
  | done hdue => simp at hmem

/-- A tick loses a day if the expirations of two days are refused in it, and only then. -/
theorem Tracks.ticked (h : s.Tracks past) (ht : Ticked today s listings s') :
    s'.Tracks (past ++ listings) ∧
      ((∃ day, s'.Lost (past ++ listings) day) ↔ (∃ day, s.Lost past day) ∨ Overlap listings) := by
  obtain ⟨first, s₁, last, hr, ha, rfl⟩ := ht
  obtain ⟨h₁, hlost₁⟩ := h.retried hr
  obtain ⟨h₂, hlost₂⟩ := h₁.advanced ha
  rw [← List.append_assoc]
  refine ⟨h₂, ?_⟩
  have hoverlap : Overlap (first ++ last) ↔
      ∃ day, s₁.expirationsDue = some day ∧ ⟨today, some false, true⟩ ∈ last := by
    constructor
    · rintro ⟨day, day', hmem, hmem', hne⟩
      rcases List.mem_append.mp hmem with hfirst | hlast <;>
        rcases List.mem_append.mp hmem' with hfirst' | hlast'
      · have hday := ((hr.refuses_iff day).mp hfirst).symm.trans ((hr.refuses_iff day').mp hfirst')
        exact absurd (Option.some.inj hday) hne
      · exact ⟨day, (hr.refuses_iff day).mp hfirst, (ha.refuses hlast').1 ▸ hlast'⟩
      · exact ⟨day', (hr.refuses_iff day').mp hfirst', (ha.refuses hlast).1 ▸ hlast⟩
      · exact absurd ((ha.refuses hlast).1.trans (ha.refuses hlast').1.symm) hne
    · rintro ⟨day, hday, hlast⟩
      have hnew := h₁.not_renewed (ha.refuses hlast).2
      refine ⟨day, today, List.mem_append_left _ ((hr.refuses_iff day).mpr hday),
        List.mem_append_right _ hlast, ?_⟩
      rintro rfl
      exact hnew (h₁.due day hday).1
  simp only [hlost₂, hlost₁, exists_or, hoverlap]

/-- A schedule in its world, with the calls of each tick so far. -/
structure History where
  schedule : Schedule := {}
  world : World
  ticks : List (List Call) := []

namespace History

/-- Ticks at one date after the other, up to the first tick that arithmetic halts. -/
def run (env : Chances) (dueDays : Nat) (h : History) : List Date → History
  | [] => h
  | today :: rest =>
    match env.run (h.schedule.tick dueDays today) h.world with
    | (.done s, w) => run env dueDays ⟨s, w, h.ticks ++ [w.calls.drop h.world.calls.length]⟩ rest
    | _ => h

/-- A schedule that tracks its listings and has lost a day if some tick overlapped. -/
structure Consistent (h : History) : Prop where
  tracks : h.schedule.Tracks (Call.listings h.world.calls)
  lost : (∃ day, h.schedule.Lost (Call.listings h.world.calls) day) ↔
    ∃ calls ∈ h.ticks, Overlap (Call.listings calls)

theorem consistent_fresh (store : Store) : Consistent { world := { store } } :=
  ⟨tracks_nil, by simp [Lost, Call.listings]⟩

theorem Consistent.run {h : History} (hc : h.Consistent) (env : Chances) (dueDays : Nat)
    (dates : List Date) : (h.run env dueDays dates).Consistent := by
  induction dates generalizing h with
  | nil => exact hc
  | cons today rest ih =>
    obtain ⟨outcome, w, calls, hrun, hw, hcase⟩ :=
      lists_tick env dueDays h.schedule today h.world
    rcases hcase with ⟨fault, rfl⟩ | ⟨s, rfl, _, hs, hticked⟩ | ⟨e, _, _, he, _⟩
    · simpa only [History.run, hrun] using hc
    · cases hs
      have hcalls : w.calls.drop h.world.calls.length = calls := by simp [hw]
      obtain ⟨htracks, hlost⟩ := hc.tracks.ticked hticked
      rw [← Call.listings_append, ← hw] at htracks hlost
      simp only [History.run, hrun, hcalls]
      refine ih ⟨htracks, ?_⟩
      simp only [hlost, hc.lost, List.mem_append, List.mem_singleton, or_and_right, exists_or,
        exists_eq_left]
    · cases he

end History

/-- After any ticks each day that was renewed has been expired or is due, exactly if no tick was
refused the expirations of two days. -/
theorem renewed_days_kept_iff (env : Chances) (dueDays : Nat) (dates : List Date) (store : Store) :
    let h := History.run env dueDays { world := { store } } dates
    (∀ day, Call.Answered h.world.calls (.listExpiring day (some true)) →
        Call.Answered h.world.calls (.listExpiring day (some false)) ∨
          h.schedule.expirationsDue = some day) ↔
      ∀ calls ∈ h.ticks, ∀ day day', Call.Refused calls (.listExpiring day (some false)) →
        Call.Refused calls (.listExpiring day' (some false)) → day = day' := by
  intro h
  have hlost := ((History.consistent_fresh store).run env dueDays dates).lost
  simp only [Call.answered_iff, Call.refused_iff]
  constructor
  · intro hkept calls hcalls day day' hday hday'
    by_contra hne
    obtain ⟨lost, hrenewed, hunexpired, hdue⟩ :=
      hlost.mpr ⟨calls, hcalls, day, day', hday, hday', hne⟩
    rcases hkept lost hrenewed with hexpired | hdue'
    · exact hunexpired hexpired
    · exact hdue hdue'
  · intro hone day hrenewed
    by_contra hnot
    rw [not_or] at hnot
    obtain ⟨calls, hcalls, day₁, day₂, h₁, h₂, hne⟩ := hlost.mp ⟨day, hrenewed, hnot.1, hnot.2⟩
    exact hne (hone calls hcalls day₁ day₂ h₁ h₂)

/-- The expirations of a day are refused, and at the next tick so are they and those of the next
day. The first day is then neither expired nor due. -/
theorem renewed_day_lost :
    let first : Date := ⟨19884, by decide, by decide⟩
    let second : Date := ⟨19885, by decide, by decide⟩
    let env : Chances := fun w =>
      { now := .midnight second
        refusal := if w.calls.length ∈ [1, 2, 4] then some (.refused "connection reset") else none }
    let h := History.run env 14 { world := { store := {} } } [first, second]
    Call.Answered h.world.calls (.listExpiring first (some true)) ∧
      ¬ (Call.Answered h.world.calls (.listExpiring first (some false)) ∨
        h.schedule.expirationsDue = some first) := by
  intro first second env h
  rw [Call.answered_iff, Call.answered_iff]
  decide +kernel

end Schedule

end RecurringBilling
