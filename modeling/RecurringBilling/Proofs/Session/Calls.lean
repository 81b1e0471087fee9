import RecurringBilling.Proofs.Contract
import RecurringBilling.Session

/-! The calls of a session, one after the other, on a world that nobody else writes to. -/

namespace RecurringBilling

/-- A call of a session with its arguments. -/
inductive SessionCall where
  | subscription
  | refresh
  | clear
  | isSubscribed
  | isSubscribedTo (slug : String)
  | isOnTrial
  | subscribe (package : Package) (withTrial : Bool)
  | cancel (immediate : Bool) (reason : Option String)
  | switchPlan (package : Package)
  | resume
  | hasFeature (slug : String)
  | featureValue (slug : String)
  | featureUsage (slug : String)
  | featureRemaining (slug : String)
  | dailyUsage (slug : String) (days : Int)
  | useFeature (slug : String) (amount : Decimal)
  | invoices

namespace SessionCall

@[reducible] def Answer : SessionCall → Type
  | subscription | refresh | cancel .. | switchPlan _ | resume => Option Subscription
  | clear => Unit
  | isSubscribed | isSubscribedTo _ | isOnTrial | hasFeature _ | useFeature .. => Bool
  | subscribe .. => Subscription
  | featureValue _ => Option String
  | featureUsage _ => Decimal
  | featureRemaining _ => Option Decimal
  | dailyUsage .. => List DailyUsage
  | invoices => List Invoice

def operation : (c : SessionCall) → Session.Operation c.Answer
  | subscription => Session.subscription
  | refresh => Session.refresh
  | clear => Session.clear
  | isSubscribed => Session.isSubscribed
  | isSubscribedTo slug => Session.isSubscribedTo slug
  | isOnTrial => Session.isOnTrial
  | subscribe package withTrial => Session.subscribe package withTrial
  | cancel immediate reason => Session.cancel immediate reason
  | switchPlan package => Session.switchPlan package
  | resume => Session.resume
  | hasFeature slug => Session.hasFeature slug
  | featureValue slug => Session.featureValue slug
  | featureUsage slug => Session.featureUsage slug
  | featureRemaining slug => Session.featureRemaining slug
  | dailyUsage slug days => Session.dailyUsage slug days
  | useFeature slug amount => Session.useFeature slug amount
  | invoices => Session.invoices

/-- The package that a call brings along. -/
def package? : SessionCall → Option Package
  | subscribe package _ => some package
  | switchPlan package => some package
  | _ => none

end SessionCall

/-- A session and the world that it works on. -/
structure Visit where
  session : Session
  world : World

namespace Visit

/-- A session that has just been opened. -/
def opened (subscriber : Subscriber) (w : World) : Visit := ⟨{ subscriber := subscriber }, w⟩

/-- A call, with its outcome and the visit as it is afterwards. -/
def turn (v : Visit) (env : Chances) (c : SessionCall) : Outcome c.Answer × Visit :=
  let (outcome, session, w) := c.operation.run env.backend v.session v.world
  (outcome, ⟨session, w⟩)

def outcome (v : Visit) (env : Chances) (c : SessionCall) : Outcome c.Answer := (v.turn env c).1

def after (v : Visit) (env : Chances) (c : SessionCall) : Visit := (v.turn env c).2

/-- The calls one after the other, each with what its steps meet. -/
def run (v : Visit) (calls : List (Chances × SessionCall)) : Visit :=
  calls.foldl (fun v (env, c) => v.after env c) v

def answers (v : Visit) : List (Chances × SessionCall) → List ((c : SessionCall) × Outcome c.Answer)
  | [] => []
  | (env, c) :: rest => ⟨c, v.outcome env c⟩ :: (v.after env c).answers rest

section

variable {v : Visit} {env : Chances} {c : SessionCall} {w : World}

/-- A call settles what the session remembers and does the rest of its work. -/
theorem turn_of_done {session : Session} {rest : Procedure c.Answer}
    (h : env.run (c.operation v.session) v.world = (.done (session, rest), w)) :
    v.turn env c = ((env.run rest w).1, ⟨session, (env.run rest w).2⟩) := by
  simp only [Chances.run] at h
  simp only [turn, Session.Operation.run, h]
  rfl

theorem turn_of_failed {e : BillingError}
    (h : env.run (c.operation v.session) v.world = (.failed e, w)) :
    v.turn env c = (.failed e, ⟨v.session, w⟩) := by
  simp only [Chances.run] at h
  simp only [turn, Session.Operation.run, h]

theorem turn_of_halted {fault : ArithmeticFault}
    (h : env.run (c.operation v.session) v.world = (.halted fault, w)) :
    v.turn env c = (.halted fault, ⟨v.session, w⟩) := by
  simp only [Chances.run] at h
  simp only [turn, Session.Operation.run, h]

end

theorem after_cases (v : Visit) (env : Chances) (c : SessionCall) :
    (∃ session rest w, env.run (c.operation v.session) v.world = (.done (session, rest), w) ∧
      v.after env c = ⟨session, (env.run rest w).2⟩) ∨
    v.after env c = ⟨v.session, (env.run (c.operation v.session) v.world).2⟩ := by
  rw [after]
  cases hrun : env.run (c.operation v.session) v.world with
  | mk first w =>
    cases first with
    | done result => exact .inl ⟨result.1, result.2, w, rfl, by rw [turn_of_done hrun]⟩
    | failed e => exact .inr (by rw [turn_of_failed hrun])
    | halted fault => exact .inr (by rw [turn_of_halted hrun])

theorem retains_after (v : Visit) (env : Chances) (c : SessionCall) :
    v.world.store.Retains (v.after env c).world.store := by
  have hfirst := env.retains_run (c.operation v.session) v.world
  rcases v.after_cases env c with ⟨session, rest, w, hrun, hafter⟩ | hafter
  · rw [hrun] at hfirst
    rw [hafter]
    exact hfirst.trans (env.retains_run rest w)
  · rw [hafter]
    exact hfirst

theorem retains_run (v : Visit) (calls : List (Chances × SessionCall)) :
    v.world.store.Retains (v.run calls).world.store := by
  induction calls generalizing v with
  | nil => exact .refl _
  | cons call rest ih => exact (v.retains_after call.1 call.2).trans (ih _)

end Visit

end RecurringBilling
