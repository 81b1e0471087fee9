import RecurringBilling.Proofs.Schedule.Listings
import RecurringBilling.Schedule

/-! What a tick of the worker does to its schedule, told by the listings that it makes. -/

namespace RecurringBilling

namespace Schedule

open Procedure

/-- The repetition of the expirations that are due. -/
inductive Retried (s : Schedule) : List Listing → Schedule → Prop where
  | nothingDue (h : s.expirationsDue = none) : Retried s [] s
  | refused {day : Date} (h : s.expirationsDue = some day) :
      Retried s [⟨day, some false, true⟩] s
  | done {day : Date} (h : s.expirationsDue = some day) :
      Retried s [⟨day, some false, false⟩] { s with expirationsDue := none }

/-- The run of a day, unless that or a later one was run before. -/
inductive Advanced (today : Date) (s : Schedule) : List Listing → Schedule → Prop where
  | notDue (h : isDue s.lastProcessed today = false) : Advanced today s [] s
  | refused (h : isDue s.lastProcessed today = true) :
      Advanced today s [⟨today, some true, true⟩] s
  | incomplete (h : isDue s.lastProcessed today = true) :
      Advanced today s [⟨today, some true, false⟩, ⟨today, some false, true⟩]
        ⟨some today, some today⟩
  | done (h : isDue s.lastProcessed today = true) :
      Advanced today s [⟨today, some true, false⟩, ⟨today, some false, false⟩]
        ⟨some today, s.expirationsDue⟩

def Ticked (today : Date) (s : Schedule) (listings : List Listing) (s' : Schedule) : Prop :=
  ∃ first s₁ last, Retried s first s₁ ∧ Advanced today s₁ last s' ∧ listings = first ++ last

theorem lt_of_isDue {s : Schedule} {last today : Date} (hdue : isDue s.lastProcessed today = true)
    (hlast : s.lastProcessed = some last) : last < today := by
  simpa [isDue, hlast] using hdue

variable (env : Chances)

theorem summarize_listsNothing (date : Date) (r : RunReport) :
    (summarize date r).ListsNothing False fun _ => True := by
  unfold summarize
  split
  · exact ListsNothing.log.bind fun _ _ => .log
  · exact .log

theorem lists_retry (s : Schedule) :
    env.Lists s.retry fun result listings => ∃ s', result = .ok s' ∧ Retried s listings s' := by
  cases hdue : s.expirationsDue with
  | none =>
    simp only [retry, hdue]
    exact .pure ⟨s, rfl, .nothingDue hdue⟩
  | some day =>
    simp only [retry, hdue]
    refine (DailyRun.lists_runExpirations env day).andThen_attempt fun result => ?_
    cases result with
    | ok r =>
      refine (summarize_listsNothing day r).bind fun _ _ => ?_
      rintro _ ⟨-, rfl⟩
      exact ⟨_, rfl, .done hdue⟩
    | error e =>
      refine ListsNothing.log.bind fun _ _ => ?_
      rintro _ rfl
      exact ⟨s, rfl, .refused hdue⟩

theorem lists_processDate (dueDays : Nat) (date : Date) :
    env.Lists (processDate dueDays date) (DailyRun.ListedDay date) := by
  refine (DailyRun.lists_run env dueDays date).andThen (fun r r' => r' = r)
    (fun r => (summarize_listsNothing date r).bind fun _ _ => rfl) ?_ fun e listings hl => hl
  rintro r _ listings hl rfl
  exact hl

theorem lists_advance (dueDays : Nat) (s : Schedule) (today : Date) :
    env.Lists (s.advance dueDays today) fun result listings =>
      ∃ s', result = .ok s' ∧ Advanced today s listings s' := by
  cases hdue : isDue s.lastProcessed today with
  | false =>
    simp only [advance, hdue]
    exact .pure ⟨s, rfl, .notDue hdue⟩
  | true =>
    simp only [advance, hdue]
    refine (lists_processDate env dueDays today).andThen_attempt fun result => ?_
    cases result with
    | ok r =>
      rintro _ rfl
      refine ⟨_, rfl, ?_⟩
      cases r.expirationsIncomplete with
      | true => exact .incomplete hdue
      | false => exact .done hdue
    | error e =>
      refine ListsNothing.log.bind fun _ _ => ?_
      rintro _ rfl
      exact ⟨s, rfl, .refused hdue⟩

theorem lists_tick (dueDays : Nat) (s : Schedule) (today : Date) :
    env.Lists (s.tick dueDays today) fun result listings =>
      ∃ s', result = .ok s' ∧ Ticked today s listings s' := by
  refine (lists_retry env s).bind ?_ ?_
  · rintro s₁ first ⟨_, hresult, hretried⟩
    cases hresult
    refine (lists_advance env dueDays s₁ today).mono ?_
    rintro result last ⟨s', hresult, hadvanced⟩
    exact ⟨s', hresult, first, s₁, last, hretried, hadvanced, rfl⟩
  · rintro e listings ⟨_, hresult, _⟩
    cases hresult

end Schedule

end RecurringBilling
