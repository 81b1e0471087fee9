import RecurringBilling.Proofs.Schedule.Ticks

/-! The passes over days that ticks make. A tick does nothing but repeat the expirations that are due
and run its day. -/

namespace RecurringBilling

open Procedure

namespace Listing

/-- The date, if the listing is that of renewals and was answered. -/
def renewed? (l : Listing) : Option Date :=
  if l.autoRenew = some true ∧ l.isRefused = false then some l.date else none

end Listing

namespace DailyRun

variable (env : Chances)

/-- How a pass ends: it halts before it has done anything, fails before it has changed anything, or
comes to its end on a date that has one. -/
inductive Ending (date : Date) (w : World) : Outcome RunReport × World → Prop where
  | halted (h : ¬ date.day < Calendar.lastDay) (fault : ArithmeticFault) :
      Ending date w (.halted fault, w)
  | failed (e : BillingError) {w' : World} (h : w'.store = w.store) : Ending date w (.failed e, w')
  | done (h : date.day < Calendar.lastDay) (r : RunReport) (w' : World) :
      Ending date w (.done r, w')

theorem ending_of_listing {post : RunReport → Prop} {f : List Subscription → Procedure RunReport}
    (hf : ∀ listed, (f listed).ListsNothing False post) (date : Date) (renews : Bool) (w : World) :
    Ending date w (env.run (request (.listExpiring date (some renews)) >>= f) w) := by
  rcases answer_listExpiring (env w) date (some renews) w with
    ⟨e, w₁, ha, hs, _⟩ | ⟨hlast, fault, ha⟩ | ⟨listed, w₁, ha, hl, _⟩
  · simp only [Chances.run_bind, Chances.run_request, ha]
    exact .failed _ hs
  · simp only [Chances.run_bind, Chances.run_request, ha]
    exact .halted hlast fault
  · obtain ⟨outcome, w', _, hrun, _, _, hend⟩ := (hf listed).run env w₁
    simp only [Chances.run_bind, Chances.run_request, ha, Outcome.ofReply_ok,
      Outcome.andThen_done, hrun]
    rcases hend with ⟨r, rfl, _⟩ | ⟨hmay, _⟩
    · exact .done (Store.lt_lastDay_of_expiring hl) r w'
    · exact hmay.elim

theorem ending_renewals (dueDays : Nat) (date : Date) (report : RunReport) (w : World) :
    Ending date w (env.run (renewals dueDays date report) w) :=
  ending_of_listing env (f := fun listed =>
      listed.foldlM (renewOne dueDays) { report with renewalsScanned := listed.length })
    (fun listed => ListsNothing.foldlM (renewOne_listsNothing dueDays) listed rfl) date true w

theorem ending_expirations (date : Date) (report : RunReport) (w : World) :
    Ending date w (env.run (expirations date report) w) :=
  ending_of_listing env (f := fun listed =>
      listed.foldlM expireOne { report with expirationsScanned := listed.length })
    (fun listed => ListsNothing.foldlM expireOne_listsNothing listed rfl) date false w

theorem ending_run (dueDays : Nat) (date : Date) (w : World) :
    Ending date w (env.run (run dueDays date) w) := by
  have hrenewals := ending_renewals env dueDays date {} w
  simp only [run, Chances.run_bind, Chances.run_log, Outcome.andThen_done, Chances.run_pure]
  generalize env.run (renewals dueDays date {}) w = x at hrenewals ⊢
  cases hrenewals with
  | halted h fault => exact .halted h fault
  | failed e h => exact .failed e h
  -- a date whose renewals could be listed has an end, so that the second listing does not halt
  | done hdate r w₁ =>
    have hexpirations := ending_expirations env date r w₁
    simp only [expirationsOrIncomplete, Chances.run_bind, Chances.run_attempt, Outcome.andThen_done]
    generalize env.run (expirations date r) w₁ = x at hexpirations ⊢
    cases hexpirations with
    | halted h => exact absurd hdate h
    | failed e h => exact .done hdate _ _
    | done _ r₂ w₂ => exact .done hdate _ _

theorem ending_runExpirations (date : Date) (w : World) :
    Ending date w (env.run (runExpirations date) w) := by
  have hexpirations := ending_expirations env date {} w
  simp only [runExpirations, Chances.run_bind, Chances.run_log, Outcome.andThen_done,
    Chances.run_pure]
  generalize env.run (expirations date {}) w = x at hexpirations ⊢
  cases hexpirations with
  | halted h fault => exact .halted h fault
  | failed e h => exact .failed e h
  | done hdate r w' => exact .done hdate r w'

end DailyRun

/-- A pass over a day: a run that halted or failed, a run that came to its end, with or without its
expirations, or a repetition of the expirations, which may fail as well. -/
inductive Pass where
  | halted (day : Date)
  | failed (day : Date)
  | ran (day : Date) (incomplete : Bool)
  | repeated (day : Date) (isRefused : Bool)

namespace Pass

def renewed? : Pass → Option Date
  | ran day _ => some day
  | _ => none

def listings : Pass → List Listing
  | halted _ => []
  | failed day => [⟨day, some true, true⟩]
  | ran day incomplete => [⟨day, some true, false⟩, ⟨day, some false, incomplete⟩]
  | repeated day isRefused => [⟨day, some false, isRefused⟩]

/-- Whether making the pass leads from one world to another. -/
def Leads (env : Chances) (dueDays : Nat) (w w' : World) : Pass → Prop
  | halted day => ∃ fault, env.run (DailyRun.run dueDays day) w = (.halted fault, w')
  | failed day => ∃ e, env.run (DailyRun.run dueDays day) w = (.failed e, w')
  | ran day incomplete => ∃ r, env.run (DailyRun.run dueDays day) w = (.done r, w') ∧
      r.expirationsIncomplete = incomplete
  | repeated day true => ∃ e, env.run (DailyRun.runExpirations day) w = (.failed e, w')
  | repeated day false => ∃ r, env.run (DailyRun.runExpirations day) w = (.done r, w')

/-- The passes lead from one world to another, and nothing else happens between the two. -/
inductive Lead (env : Chances) (dueDays : Nat) : World → List Pass → World → Prop where
  | nil {w : World} : Lead env dueDays w [] w
  | cons {w w₁ w₂ : World} {pass : Pass} {passes : List Pass} (first : pass.Leads env dueDays w w₁)
      (rest : Lead env dueDays w₁ passes w₂) : Lead env dueDays w (pass :: passes) w₂

variable {env : Chances} {dueDays : Nat} {w w' w'' : World} {pass : Pass} {passes passes' : List Pass}

theorem Lead.append (h : Lead env dueDays w passes w') (h' : Lead env dueDays w' passes' w'') :
    Lead env dueDays w (passes ++ passes') w'' := by
  induction h with
  | nil => exact h'
  | cons first _ ih => exact .cons first (ih h')

theorem Leads.lead (h : pass.Leads env dueDays w w') : Lead env dueDays w [pass] w' := .cons h .nil

/-- What is run in the pass. -/
def procedure (dueDays : Nat) : Pass → Procedure RunReport
  | halted day => DailyRun.run dueDays day
  | failed day => DailyRun.run dueDays day
  | ran day _ => DailyRun.run dueDays day
  | repeated day _ => DailyRun.runExpirations day

theorem Leads.world (h : pass.Leads env dueDays w w') :
    (env.run (pass.procedure dueDays) w).2 = w' := by
  cases pass with
  | halted day =>
    obtain ⟨fault, hrun⟩ := h
    exact congrArg Prod.snd hrun
  | failed day =>
    obtain ⟨e, hrun⟩ := h
    exact congrArg Prod.snd hrun
  | ran day incomplete =>
    obtain ⟨r, hrun, _⟩ := h
    exact congrArg Prod.snd hrun
  | repeated day isRefused =>
    cases isRefused with
    | true =>
      obtain ⟨e, hrun⟩ := h
      exact congrArg Prod.snd hrun
    | false =>
      obtain ⟨r, hrun⟩ := h
      exact congrArg Prod.snd hrun

theorem Leads.listings (h : pass.Leads env dueDays w w') :
    Call.listings w'.calls = Call.listings w.calls ++ pass.listings := by
  cases pass with
  | halted day =>
    obtain ⟨fault, hrun⟩ := h
    have hend := DailyRun.ending_run env dueDays day w
    rw [hrun] at hend
    cases hend with
    | halted _ fault => exact (List.append_nil _).symm
  | failed day =>
    obtain ⟨e, hrun⟩ := h
    obtain ⟨listings, hw, rfl⟩ := (DailyRun.lists_run env dueDays day).of_failed hrun
    exact hw
  | ran day incomplete =>
    obtain ⟨r, hrun, rfl⟩ := h
    obtain ⟨listings, hw, rfl⟩ := (DailyRun.lists_run env dueDays day).of_done hrun
    exact hw
  | repeated day isRefused =>
    cases isRefused with
    | true =>
      obtain ⟨e, hrun⟩ := h
      obtain ⟨listings, hw, rfl⟩ := (DailyRun.lists_runExpirations env day).of_failed hrun
      exact hw
    | false =>
      obtain ⟨r, hrun⟩ := h
      obtain ⟨listings, hw, _, rfl⟩ := (DailyRun.lists_runExpirations env day).of_done hrun
      exact hw

theorem filterMap_listings (pass : Pass) :
    pass.listings.filterMap Listing.renewed? = pass.renewed?.toList := by
  cases pass <;> simp [Pass.listings, Listing.renewed?, renewed?]

/-- The days whose renewals were listed are the days of the runs that did not fail. -/
theorem Lead.renewed (h : Lead env dueDays w passes w') :
    (Call.listings w'.calls).filterMap Listing.renewed? =
      (Call.listings w.calls).filterMap Listing.renewed? ++ passes.filterMap renewed? := by
  induction h with
  | nil => simp
  | @cons w w₁ w₂ pass passes first _ ih =>
    rw [ih, first.listings, List.filterMap_append, filterMap_listings, List.append_assoc]
    cases hp : pass.renewed? <;> simp [hp]

end Pass

namespace Schedule

/-- What a tick makes of the expirations that are due. -/
inductive Retries (s : Schedule) : List Pass → Outcome Schedule → Prop where
  | nothingDue (h : s.expirationsDue = none) : Retries s [] (.done s)
  | refused {day : Date} (h : s.expirationsDue = some day) :
      Retries s [.repeated day true] (.done s)
  | done {day : Date} (h : s.expirationsDue = some day) :
      Retries s [.repeated day false] (.done { s with expirationsDue := none })
  | halted {day : Date} (h : s.expirationsDue = some day) (hdate : ¬ day.day < Calendar.lastDay)
      (fault : ArithmeticFault) : Retries s [] (.halted fault)

/-- What a tick makes of its day. -/
inductive Advances (today : Date) (s : Schedule) : List Pass → Outcome Schedule → Prop where
  | notDue (h : isDue s.lastProcessed today = false) : Advances today s [] (.done s)
  | failed (h : isDue s.lastProcessed today = true) : Advances today s [.failed today] (.done s)
  | ran (h : isDue s.lastProcessed today = true) (hdate : today.day < Calendar.lastDay)
      (incomplete : Bool) :
      Advances today s [.ran today incomplete]
        (.done ⟨some today, if incomplete then some today else s.expirationsDue⟩)
  | halted (h : isDue s.lastProcessed today = true) (fault : ArithmeticFault) :
      Advances today s [.halted today] (.halted fault)

variable (env : Chances) (dueDays : Nat)

@[simp] theorem run_summarize (date : Date) (r : RunReport) (w : World) :
    env.run (summarize date r) w = (.done (), w) := by
  unfold summarize
  split <;> simp

theorem retries (s : Schedule) (w : World) :
    ∃ passes, s.Retries passes (env.run s.retry w).1 ∧
      Pass.Lead env dueDays w passes (env.run s.retry w).2 := by
  cases hdue : s.expirationsDue with
  | none =>
    simp only [retry, hdue, Chances.run_pure]
    exact ⟨[], .nothingDue hdue, .nil⟩
  | some day =>
    have hend := DailyRun.ending_runExpirations env day w
    simp only [retry, hdue, Chances.run_bind, Chances.run_attempt]
    generalize hrun : env.run (DailyRun.runExpirations day) w = x at hend ⊢
    cases hend with
    | halted hdate fault => exact ⟨[], .halted hdue hdate fault, .nil⟩
    | failed e _ => exact ⟨[.repeated day true], .refused hdue, Pass.Leads.lead ⟨e, hrun⟩⟩
    | done _ r w' =>
      simp only [Outcome.caught_done, Outcome.andThen_done, Chances.run_bind, run_summarize,
        Chances.run_pure]
      exact ⟨[.repeated day false], .done hdue, Pass.Leads.lead ⟨r, hrun⟩⟩

theorem advances (s : Schedule) (today : Date) (w : World) :
    ∃ passes, Advances today s passes (env.run (s.advance dueDays today) w).1 ∧
      Pass.Lead env dueDays w passes (env.run (s.advance dueDays today) w).2 := by
  cases hdue : isDue s.lastProcessed today with
  | false =>
    simp only [advance, hdue]
    exact ⟨[], .notDue hdue, .nil⟩
  | true =>
    have hend := DailyRun.ending_run env dueDays today w
    simp only [advance, hdue, processDate, Bool.not_true, Bool.false_eq_true, if_false,
      Chances.run_bind, Chances.run_attempt]
    generalize hrun : env.run (DailyRun.run dueDays today) w = x at hend ⊢
    cases hend with
    | halted _ fault =>
      exact ⟨[.halted today], .halted hdue fault, Pass.Leads.lead ⟨fault, hrun⟩⟩
    | failed e _ => exact ⟨[.failed today], .failed hdue, Pass.Leads.lead ⟨e, hrun⟩⟩
    | done hdate r w' =>
      simp only [Outcome.andThen_done, run_summarize, Chances.run_pure, Outcome.caught_done]
      exact ⟨[.ran today r.expirationsIncomplete], .ran hdue hdate _,
        Pass.Leads.lead ⟨r, hrun, rfl⟩⟩

end Schedule

end RecurringBilling
