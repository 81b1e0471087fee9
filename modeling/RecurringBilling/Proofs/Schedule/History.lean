import RecurringBilling.Proofs.DailyRun.Invariants
import RecurringBilling.Proofs.Lifecycle.Operations
import RecurringBilling.Proofs.Store.Growth
import RecurringBilling.Schedule

/-! The history of a storage that is served by a worker: what was done to it, step after step, and
the store before and after each. -/

namespace RecurringBilling

open Procedure

/-- A call that issues, pays or voids an invoice. -/
inductive BillingCall where
  | generate (subscription : Subscription) (amount : Option Decimal)
  | create (draft : InvoiceDraft)
  | markPaid (invoice : Invoice)
  | markVoid (invoice : Invoice)

namespace BillingCall

def procedure (dueDays : Nat) : BillingCall → Procedure Invoice
  | generate subscription amount => Invoicing.generate dueDays subscription amount
  | create draft => Invoicing.create draft
  | markPaid invoice => Invoicing.markPaid invoice
  | markVoid invoice => Invoicing.markVoid invoice

theorem keeps_subscriptions (dueDays : Nat) (call : BillingCall) (rows : List Subscription) :
    (call.procedure dueDays).Keeps (fun s => s.subscriptions = rows) fun _ => True := by
  cases call with
  | generate subscription amount =>
    exact Invoicing.keeps_generate (fun _ _ _ hs => hs) dueDays subscription amount
  | create draft => exact Invoicing.keeps_create (fun _ _ _ hs => hs) draft
  | markPaid invoice =>
    simp only [procedure, Invoicing.markPaid]
    split
    · trivial
    · intro now
      refine (keeps_requestOr (fun _ => True) (fun _ => keeps_log) ?_).bind fun _ _ =>
        keeps_log.bind fun _ _ => trivial
      exact fun _ s i s' hs ha => ⟨(Store.answer_of_not_writes rfl ha).1.trans hs, trivial⟩
  | markVoid invoice =>
    refine (keeps_requestOr (fun _ => True) (fun _ => keeps_log) ?_).bind fun _ _ =>
      keeps_log.bind fun _ _ => trivial
    exact fun _ s i s' hs ha => ⟨(Store.answer_of_not_writes rfl ha).1.trans hs, trivial⟩

theorem subscriptions_run (dueDays : Nat) (call : BillingCall) (env : Chances) (w : World) :
    (env.run (call.procedure dueDays) w).2.store.subscriptions = w.store.subscriptions :=
  (keeps_subscriptions dueDays call w.store.subscriptions).run env rfl

end BillingCall

/-- What a worker does: a tick on a date, or a new start with an empty schedule. -/
inductive Turn where
  | tick (today : Date)
  | restart
  deriving DecidableEq

inductive Action where
  | operation (op : Operation)
  | billing (call : BillingCall)
  | turn (t : Turn)

/-- A world with the schedule of its worker, unless a tick has halted that. -/
structure Site where
  world : World
  schedule : Option Schedule := some {}

namespace Site

def turn (dueDays : Nat) (env : Chances) (site : Site) : Turn → Site
  | .tick today =>
    match site.schedule with
    | none => site
    | some schedule =>
      match env.run (schedule.tick dueDays today) site.world with
      | (.done schedule, world) => ⟨world, some schedule⟩
      | (_, world) => ⟨world, none⟩
  | .restart => { site with schedule := some {} }

/-- Carries out an action to its end. -/
def step (dueDays : Nat) (site : Site) : Chances × Action → Site
  | (env, .operation op) => { site with world := (env.run op.procedure site.world).2 }
  | (env, .billing call) => { site with world := (env.run (call.procedure dueDays) site.world).2 }
  | (env, .turn t) => site.turn dueDays env t

def run (dueDays : Nat) (site : Site) (steps : List (Chances × Action)) : Site :=
  steps.foldl (step dueDays) site

end Site

/-- An action with the store before and after it. -/
structure Moment where
  action : Action
  before : Store
  after : Store

namespace Moment

def created (m : Moment) : List Subscription :=
  m.after.subscriptions.drop m.before.subscriptions.length

def issued (m : Moment) : List Invoice := m.after.invoices.drop m.before.invoices.length

theorem issued_eq {m : Moment} {added : List Invoice}
    (h : m.after.invoices = m.before.invoices ++ added) : m.issued = added := by
  rw [issued, h, List.drop_left]

theorem issued_eq_nil {m : Moment} (h : m.after.invoices = m.before.invoices) : m.issued = [] :=
  issued_eq (by rw [h, List.append_nil])

/-- The invoices that a tick issues for a subscription, with the date of the tick. -/
def renewals (id : Id) (m : Moment) : List (Date × Invoice) :=
  match m.action with
  | .turn (.tick today) => (m.issued.filter (·.subscriptionId == id)).map (today, ·)
  | _ => []

theorem renewals_eq_nil {m : Moment} (h : m.after.invoices = m.before.invoices) (id : Id) :
    m.renewals id = [] := by
  unfold renewals
  split
  · simp [issued_eq_nil h]
  · rfl

end Moment

namespace Site

variable (dueDays : Nat)

def moment (site : Site) (p : Chances × Action) : Moment :=
  ⟨p.2, site.world.store, (site.step dueDays p).world.store⟩

def history : Site → List (Chances × Action) → List Moment
  | _, [] => []
  | site, p :: rest => site.moment dueDays p :: history (site.step dueDays p) rest

variable {dueDays} {env : Chances} {site : Site} {schedule : Schedule} {today : Date}

theorem turn_tick_of_none (hs : site.schedule = none) :
    site.turn dueDays env (.tick today) = site := by
  simp [turn, hs]

theorem turn_tick_world (hs : site.schedule = some schedule) :
    (site.turn dueDays env (.tick today)).world =
      (env.run (schedule.tick dueDays today) site.world).2 := by
  simp only [turn, hs]
  split <;> rename_i hrun <;> rw [hrun]

theorem turn_tick_schedule (hs : site.schedule = some schedule) (schedule' : Schedule) :
    (site.turn dueDays env (.tick today)).schedule = some schedule' ↔
      (env.run (schedule.tick dueDays today) site.world).1 = .done schedule' := by
  cases hrun : env.run (schedule.tick dueDays today) site.world with
  | mk outcome world => cases outcome <;> simp [turn, hs, hrun]

variable (dueDays)

theorem grows_turn (env : Chances) (site : Site) (t : Turn) :
    site.world.store.Grows (site.turn dueDays env t).world.store := by
  cases t with
  | restart => exact .refl _
  | tick today =>
    cases hs : site.schedule with
    | none =>
      rw [turn_tick_of_none hs]
      exact .refl _
    | some schedule =>
      rw [turn_tick_world hs]
      exact env.grows_run (schedule.tick dueDays today) site.world

theorem grows_step (site : Site) (p : Chances × Action) :
    site.world.store.Grows (site.step dueDays p).world.store := by
  obtain ⟨env, action⟩ := p
  cases action with
  | operation op => exact env.grows_run op.procedure site.world
  | billing call => exact env.grows_run (call.procedure dueDays) site.world
  | turn t => exact site.grows_turn dueDays env t

theorem grows_run (site : Site) (steps : List (Chances × Action)) :
    site.world.store.Grows (site.run dueDays steps).world.store := by
  induction steps generalizing site with
  | nil => exact .refl _
  | cons p rest ih => exact (site.grows_step dueDays p).trans (ih _)

theorem ids_created (site : Site) (p : Chances × Action) :
    (site.step dueDays p).world.store.subscriptions.map (·.id) =
      site.world.store.subscriptions.map (·.id) ++ (site.moment dueDays p).created.map (·.id) :=
  (site.grows_step dueDays p).ids_drop

end Site

end RecurringBilling
