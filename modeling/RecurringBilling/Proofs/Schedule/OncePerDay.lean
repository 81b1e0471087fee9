import RecurringBilling.Proofs.Schedule.Passes

/-! How often a day is passed over. A schedule remembers enough of its passes that no day is renewed
twice and only expirations that are still open are repeated. -/

namespace RecurringBilling

namespace Schedule

/-- No day is renewed twice, and what is repeated was left open by a run and not yet made up for. -/
structure Once (passes : List Pass) : Prop where
  renewed : (passes.filterMap Pass.renewed?).Pairwise (· < ·)
  repeated : ∀ before day isRefused after, passes = before ++ .repeated day isRefused :: after →
    .ran day true ∈ before ∧ .repeated day false ∉ before

/-- What a schedule knows of the passes so far. -/
structure Remembers (s : Schedule) (past : List Pass) : Prop extends Once past where
  last : ∀ day incomplete, .ran day incomplete ∈ past →
    ∃ last, s.lastProcessed = some last ∧ day ≤ last
  due : ∀ day, s.expirationsDue = some day → .ran day true ∈ past ∧ .repeated day false ∉ past
  ends : ∀ day, s.expirationsDue = some day → day.day < Calendar.lastDay

variable (env : Chances) (dueDays : Nat) {s : Schedule} {past passes : List Pass} {today : Date}
  {outcome : Outcome Schedule}

theorem Once.append (h : Once past) {pass : Pass}
    (hlater : ∀ day ∈ pass.renewed?, ∀ earlier ∈ past.filterMap Pass.renewed?, earlier < day)
    (hopen : ∀ day isRefused, pass = .repeated day isRefused →
      .ran day true ∈ past ∧ .repeated day false ∉ past) : Once (past ++ [pass]) := by
  refine ⟨?_, ?_⟩
  · rw [List.filterMap_append, List.pairwise_append]
    refine ⟨h.renewed, ?_, ?_⟩
    · cases hp : pass.renewed? <;> simp [hp]
    · intro earlier hearlier day hday
      exact hlater day (by simpa using hday) earlier hearlier
  · intro before day isRefused after heq
    rcases List.eq_nil_or_concat after with rfl | ⟨after, last, rfl⟩
    · obtain ⟨rfl, hlast⟩ := List.append_inj' heq rfl
      exact hopen day isRefused (List.singleton_inj.mp hlast)
    · rw [List.concat_eq_append, ← List.cons_append, ← List.append_assoc] at heq
      exact h.repeated before day isRefused after (List.append_inj' heq rfl).1

theorem Remembers.append_repeated (h : s.Remembers past) {day : Date}
    (hdue : s.expirationsDue = some day) (isRefused : Bool) :
    Once (past ++ [.repeated day isRefused]) := by
  refine h.append (by simp [Pass.renewed?]) ?_
  rintro _ _ ⟨⟩
  exact h.due day hdue

theorem Remembers.renewed_lt (h : s.Remembers past) (hdue : isDue s.lastProcessed today = true) :
    ∀ earlier ∈ past.filterMap Pass.renewed?, earlier < today := by
  intro earlier hearlier
  obtain ⟨pass, hpass, hday⟩ := List.mem_filterMap.mp hearlier
  cases pass with
  | halted day => simp [Pass.renewed?] at hday
  | failed day => simp [Pass.renewed?] at hday
  | repeated day isRefused => simp [Pass.renewed?] at hday
  | ran day incomplete =>
    obtain rfl : day = earlier := by simpa [Pass.renewed?] using hday
    obtain ⟨last, hlast, hle⟩ := h.last day incomplete hpass
    exact Int.lt_of_le_of_lt hle (lt_of_isDue hdue hlast)

theorem Remembers.not_ran (h : s.Remembers past) (hdue : isDue s.lastProcessed today = true)
    (incomplete : Bool) : .ran today incomplete ∉ past := by
  intro hmem
  have hlt := h.renewed_lt hdue today (List.mem_filterMap.mpr ⟨_, hmem, rfl⟩)
  exact Int.lt_irrefl _ hlt

theorem Remembers.retries (h : s.Remembers past) (hr : s.Retries passes outcome) :
    Once (past ++ passes) ∧ ∀ s', outcome = .done s' → s'.Remembers (past ++ passes) := by
  cases hr with
  | nothingDue hdue =>
    rw [List.append_nil]
    refine ⟨h.toOnce, ?_⟩
    rintro _ ⟨⟩
    exact h
  | halted hdue hdate fault => exact absurd (h.ends _ hdue) hdate
  | refused hdue =>
    have honce := h.append_repeated hdue true
    refine ⟨honce, ?_⟩
    rintro _ ⟨⟩
    exact ⟨honce, by simpa using h.last, by simpa using h.due, h.ends⟩
  | done hdue =>
    have honce := h.append_repeated hdue false
    refine ⟨honce, ?_⟩
    rintro _ ⟨⟩
    exact ⟨honce, by simpa using h.last, by simp, by simp⟩

theorem Remembers.advances (h : s.Remembers past) (ha : Advances today s passes outcome) :
    Once (past ++ passes) ∧ ∀ s', outcome = .done s' → s'.Remembers (past ++ passes) := by
  cases ha with
  | notDue hdue =>
    rw [List.append_nil]
    refine ⟨h.toOnce, ?_⟩
    rintro _ ⟨⟩
    exact h
  | halted hdue fault =>
    have honce : Once (past ++ [.halted today]) := h.append (by simp [Pass.renewed?]) (by simp)
    refine ⟨honce, ?_⟩
    rintro s' ⟨⟩
  | failed hdue =>
    have honce : Once (past ++ [.failed today]) := h.append (by simp [Pass.renewed?]) (by simp)
    refine ⟨honce, ?_⟩
    rintro _ ⟨⟩
    exact ⟨honce, by simpa using h.last, by simpa using h.due, h.ends⟩
  | ran hdue hdate incomplete =>
    have hlater : ∀ day ∈ (Pass.ran today incomplete).renewed?,
        ∀ earlier ∈ past.filterMap Pass.renewed?, earlier < day := by
      intro day hday
      obtain rfl : today = day := by simpa [Pass.renewed?] using hday
      exact h.renewed_lt hdue
    have honce : Once (past ++ [.ran today incomplete]) := h.append hlater (by simp)
    refine ⟨honce, ?_⟩
    rintro _ ⟨⟩
    refine ⟨honce, ?_, ?_, ?_⟩
    · intro day incomplete' hmem
      refine ⟨today, rfl, ?_⟩
      rcases List.mem_append.mp hmem with hmem | hmem
      · exact Int.le_of_lt (h.renewed_lt hdue day (List.mem_filterMap.mpr ⟨_, hmem, rfl⟩))
      · obtain ⟨rfl, _⟩ : day = today ∧ _ := by simpa using hmem
        exact Int.le_refl _
    · intro day hday
      cases incomplete with
      | true =>
        obtain rfl : today = day := by simpa using hday
        refine ⟨by simp, ?_⟩
        intro hmem
        -- a day that was repeated before was run before, and then it was not to be run again
        have hmem : .repeated today false ∈ past := by simpa using hmem
        obtain ⟨before, after, rfl⟩ := List.append_of_mem hmem
        have hran := (h.repeated before today false after rfl).1
        exact h.not_ran hdue true (List.mem_append_left _ hran)
      | false => simpa using h.due day (by simpa using hday)
    · intro day hday
      cases incomplete with
      | true =>
        obtain rfl : today = day := by simpa using hday
        exact hdate
      | false => exact h.ends day (by simpa using hday)

theorem Remembers.ticks (h : s.Remembers past) (dates : List Date) (w : World) :
    ∃ passes, Pass.Lead env dueDays w passes (env.run (dates.foldlM (tick dueDays) s) w).2 ∧
      Once (past ++ passes) := by
  induction dates generalizing s past w with
  | nil => exact ⟨[], .nil, by simpa using h.toOnce⟩
  | cons today rest ih =>
    obtain ⟨passes₁, hr, hlead₁⟩ := Schedule.retries env dueDays s w
    obtain ⟨honce₁, hnext₁⟩ := h.retries hr
    cases hrun₁ : env.run s.retry w with
    | mk outcome₁ w₁ =>
    rw [hrun₁] at hr hlead₁ hnext₁
    cases outcome₁ with
    | failed e => cases hr
    | halted fault => exact ⟨passes₁, by simpa [tick, hrun₁] using hlead₁, honce₁⟩
    | done s₁ =>
      have h₁ := hnext₁ s₁ rfl
      obtain ⟨passes₂, ha, hlead₂⟩ := Schedule.advances env dueDays s₁ today w₁
      obtain ⟨honce₂, hnext₂⟩ := h₁.advances ha
      cases hrun₂ : env.run (s₁.advance dueDays today) w₁ with
      | mk outcome₂ w₂ =>
      rw [hrun₂] at ha hlead₂ hnext₂
      rw [List.append_assoc] at honce₂ hnext₂
      have hlead := hlead₁.append hlead₂
      cases outcome₂ with
      | failed e => cases ha
      | halted fault => exact ⟨_, by simpa [tick, hrun₁, hrun₂] using hlead, honce₂⟩
      | done s₂ =>
        obtain ⟨passes₃, hlead₃, honce₃⟩ := ih (hnext₂ s₂ rfl) w₂
        refine ⟨passes₁ ++ passes₂ ++ passes₃, ?_, by simpa using honce₃⟩
        simpa [tick, hrun₁, hrun₂] using hlead.append hlead₃

theorem remembers_nil : Remembers {} [] := ⟨⟨by simp, by simp⟩, by simp, by simp, by simp⟩

/-- Whatever the dates of the ticks and whatever is refused, the days that are renewed come in their
order and each of them once; expirations are repeated only for a day whose run left them open, and
not again once a repetition of them has come to its end. -/
theorem passes_once (dates : List Date) (store : Store) :
    let w := (env.run (dates.foldlM (tick dueDays) {}) { store }).2
    ((Call.listings w.calls).filterMap Listing.renewed?).Pairwise (· < ·) ∧
      ∃ passes, Pass.Lead env dueDays { store } passes w ∧
        ∀ before day isRefused after, passes = before ++ .repeated day isRefused :: after →
          .ran day true ∈ before ∧ .repeated day false ∉ before := by
  intro w
  obtain ⟨passes, hlead, honce⟩ := remembers_nil.ticks env dueDays dates { store }
  rw [List.nil_append] at honce
  refine ⟨?_, passes, hlead, honce.repeated⟩
  rw [hlead.renewed]
  exact honce.renewed

end Schedule

end RecurringBilling
