import RecurringBilling.Proofs.Lifecycle.Creation
import RecurringBilling.Proofs.Session.Calls
import RecurringBilling.Proofs.Store.Rows

/-! Two requests of a subscriber at the same time, each on a session of its own. A request takes two
steps: it looks its subscription up, and it does the rest with what it has found. Between the two
the other may take steps of its own. What a switch reads of the new package is part of its second
step; no request writes to it. -/

namespace RecurringBilling

/-- All is answered, and the time is the same throughout. -/
def Chances.still (t : Instant) : Chances := fun _ => { now := t }

theorem Chances.calm_still (t : Instant) : (still t).Calm := fun _ => rfl

/-- A request of a subscriber that changes a subscription. -/
inductive ChangeRequest where
  | cancel (immediate : Bool) (reason : Option String)
  | resume
  | switchPlan (package : Package)

/-- How far a request has come. -/
inductive Progress where
  | opened (first : Procedure (Session × Procedure (Option Subscription)))
  | settled (rest : Procedure (Option Subscription))
  | ended (outcome : Outcome (Option Subscription))

namespace Progress

/-- The next step, at an instant. -/
def step (t : Instant) : Progress → World → Progress × World
  | opened first, w =>
    match (Chances.still t).run first w with
    | (.done (_, rest), w) => (settled rest, w)
    | (.failed e, w) => (ended (.failed e), w)
    | (.halted fault, w) => (ended (.halted fault), w)
  | settled rest, w =>
    let (outcome, w) := (Chances.still t).run rest w
    (ended outcome, w)
  | ended outcome, w => (ended outcome, w)

end Progress

/-- Two requests and the world that they share. -/
structure Race where
  world : World
  requests : Bool → Progress

namespace Race

/-- A step of one of the two. -/
def step (race : Race) (turn : Bool × Instant) : Race :=
  let (progress, w) := (race.requests turn.1).step turn.2 race.world
  ⟨w, fun x => if x = turn.1 then progress else race.requests x⟩

def run (race : Race) (turns : List (Bool × Instant)) : Race := turns.foldl step race

end Race

namespace ChangeRequest

def operation : ChangeRequest → Session.Operation (Option Subscription)
  | cancel immediate reason => Session.cancel immediate reason
  | resume => Session.resume
  | switchPlan package => Session.switchPlan package

/-- Two requests about to begin, on sessions that have just been opened. -/
def race (requests : Bool → ChangeRequest) (subscriber : Subscriber) (s : Store) : Race :=
  ⟨{ store := s }, fun x => .opened ((requests x).operation { subscriber := subscriber })⟩

/-- What a request looks up. -/
def target? (subscriber : Subscriber) (t : Instant) (s : Store) :
    ChangeRequest → Option Subscription
  | resume => s.findResumable subscriber t
  | _ => s.findValidSubscription subscriber

def work : ChangeRequest → Subscription → Procedure Subscription
  | cancel immediate reason, r => Subscribing.cancel r immediate reason
  | resume, r => Subscribing.resume r
  | switchPlan package, r => Subscribing.switchPlan r package

/-- What a request does with the subscription that it has found. -/
def rest (c : ChangeRequest) : Option Subscription → Procedure (Option Subscription)
  | some r => some <$> c.work r
  | none => pure none

end ChangeRequest

namespace Store

/-- The store after a request, which is the same if it is refused. -/
def after {α : Type} (s : Store) (answer : Answer α) : Store :=
  match answer with
  | .ok (_, s') => s'
  | .error _ => s

/-- The store with the first row of an identifier changed, if there is one. -/
def amend (id : Id) (changes : SubscriptionChanges) (s : Store) : Store :=
  { s with subscriptions := amendFirst (·.id == id) changes.apply s.subscriptions }

theorem after_updateSubscription (s : Store) (id : Id) (changes : SubscriptionChanges) :
    s.after (s.updateSubscription id changes) = s.amend id changes := by
  unfold updateSubscription amend
  cases hm : modifyFirst? (·.id == id) changes.apply s.subscriptions with
  | none => rw [amendFirst_of_forall (modifyFirst?_eq_none hm)]; rfl
  | some result => rw [amendFirst_of_some hm]; rfl

theorem store_answer_still (t : Instant) (r : Request) (w : World) :
    (w.answer { now := t } r).2.store = w.store.after (w.store.answer t r) := by
  unfold World.answer
  cases w.store.answer t r with
  | ok answered => rfl
  | error refusal => cases refusal <;> rfl

end Store

namespace ChangeRequest

variable {requests : Bool → ChangeRequest} {c : ChangeRequest} {subscriber : Subscriber}
  {t : Instant} {w : World}

/-- What a request writes of a subscription that it has found. -/
def write (c : ChangeRequest) (t : Instant) (r : Subscription) (s : Store) : Store :=
  match c with
  | cancel immediate reason =>
    s.after (s.updateSubscription r.id (Subscribing.cancellation t immediate reason))
  | resume =>
    if r.isResumableAt t then s.after (s.updateSubscription r.id (Subscribing.resumption t)) else s
  | switchPlan package =>
    match r.subscriber? with
    | some owner =>
      s.after (s.switchPlan t r.id
        (Subscribing.cancellation t true (some Subscribing.planSwitchReason))
        (Subscribing.newSubscription owner package false t) (s.seeds package))
    | none => s

def writeAll (c : ChangeRequest) (t : Instant) (found : Option Subscription) (s : Store) : Store :=
  match found with
  | some r => c.write t r s
  | none => s

theorem writeAll_some (c : ChangeRequest) (t : Instant) (r : Subscription) (s : Store) :
    c.writeAll t (some r) s = c.write t r s := rfl

theorem run_lookUp (subscriber : Subscriber) (t : Instant) (w : World) :
    ∃ w', w'.store = w.store ∧
      (Chances.still t).run (Session.lookUp { subscriber := subscriber }) w =
        (.done ({ subscriber := subscriber
                  remembered := some (w.store.findValidSubscription subscriber) },
          w.store.findValidSubscription subscriber), w') := by
  have hanswer : w.store.answer (Chances.still t w).now (.findValidSubscription subscriber) =
      .ok (w.store.findValidSubscription subscriber, w.store) := rfl
  obtain ⟨w', ha, hstore⟩ := (Chances.calm_still t).answer hanswer
  refine ⟨w', hstore, ?_⟩
  simp only [Session.lookUp, Subscribing.current?, Chances.run_bind, Chances.run_request, ha,
    Chances.run_log, Chances.run_pure, Outcome.ofReply_ok, Outcome.andThen_done]

theorem step_opened (c : ChangeRequest) (subscriber : Subscriber) (t : Instant) (w : World) :
    ∃ w', w'.store = w.store ∧
      (Progress.opened (c.operation { subscriber := subscriber })).step t w =
        (.settled (c.rest (c.target? subscriber t w.store)), w') := by
  cases c with
  | cancel immediate reason =>
    obtain ⟨w', hstore, hrun⟩ := run_lookUp subscriber t w
    refine ⟨w', hstore, ?_⟩
    simp only [Progress.step, operation, Session.cancel, Session.changeSubscription,
      Session.resolve, Chances.run_bind, hrun, Chances.run_pure, Outcome.andThen_done, target?]
    cases w.store.findValidSubscription subscriber <;> rfl
  | switchPlan package =>
    obtain ⟨w', hstore, hrun⟩ := run_lookUp subscriber t w
    refine ⟨w', hstore, ?_⟩
    simp only [Progress.step, operation, Session.switchPlan, Session.changeSubscription,
      Session.resolve, Chances.run_bind, hrun, Chances.run_pure, Outcome.andThen_done, target?]
    cases w.store.findValidSubscription subscriber <;> rfl
  | resume =>
    have hanswer : w.store.answer (Chances.still t w).now (.findResumable subscriber t) =
        .ok (w.store.findResumable subscriber t, w.store) := rfl
    obtain ⟨w', ha, hstore⟩ := (Chances.calm_still t).answer hanswer
    refine ⟨w', hstore, ?_⟩
    have hnow : (Chances.still t w).now = t := rfl
    simp only [Progress.step, operation, Session.resume, Subscribing.resumable?, Chances.run_bind,
      Chances.run_now, Chances.run_request, hnow, ha, Outcome.ofReply_ok, Outcome.andThen_done,
      target?]
    cases w.store.findResumable subscriber t <;> rfl

/-- A request whose answer is only reported writes what its answer does. -/
theorem store_reported {α β : Type} {next : α → World → Outcome β × World}
    (answer : Except ArithmeticFault (Except StorageError α) × World)
    (hnext : ∀ a w, (next a w).2.store = w.store) :
    (Outcome.andThen (Outcome.ofReply answer) next).2.store = answer.2.store := by
  obtain ⟨reply, w⟩ := answer
  rcases reply with fault | e | a
  · rfl
  · rfl
  · exact hnext a w

theorem run_itemSeeds (package : Package) (t : Instant) (w : World) :
    ∃ w', w'.store = w.store ∧ (Chances.still t).run (Subscribing.itemSeeds package) w =
      (.done (w.store.seeds package), w') := by
  have hanswer : w.store.answer (Chances.still t w).now (.listFeatures package.id) =
      .ok (w.store.grantedFeatures package.id, w.store) := rfl
  obtain ⟨w', ha, hstore⟩ := (Chances.calm_still t).answer hanswer
  refine ⟨w', hstore, ?_⟩
  simp only [Subscribing.itemSeeds, Chances.run_bind, Chances.run_requestOr, ha, Chances.run_pure,
    Outcome.ofReply_ok, Outcome.andThen_done, Store.seeds]

theorem run_work (c : ChangeRequest) (t : Instant) (r : Subscription) (w : World) :
    ((Chances.still t).run (c.work r) w).2.store = c.write t r w.store := by
  have hstill : ∀ w, Chances.still t w = { now := t } := fun _ => rfl
  cases c with
  | cancel immediate reason =>
    simp only [work, Subscribing.cancel, Chances.run_bind, Chances.run_log, Chances.run_now,
      Chances.run_requestOr, Chances.run_pure, Outcome.andThen_done, hstill]
    rw [store_reported _ fun _ _ => rfl, Store.store_answer_still]
    rfl
  | resume =>
    simp only [work, Subscribing.resume, Chances.run_bind, Chances.run_now, Outcome.andThen_done,
      hstill, write]
    cases r.isResumableAt t with
    | false => rfl
    | true =>
      simp only [Bool.not_true, Bool.false_eq_true, if_false, if_true, Chances.run_bind,
        Chances.run_requestOr, Chances.run_log, Chances.run_pure, Outcome.andThen_done, hstill]
      rw [store_reported _ fun _ _ => rfl, Store.store_answer_still]
      rfl
  | switchPlan package =>
    simp only [work, Subscribing.switchPlan, write]
    cases r.subscriber? with
    | none => rfl
    | some owner =>
      obtain ⟨w', hstore, hseeds⟩ := run_itemSeeds package t w
      simp only [Chances.run_bind, Chances.run_log, Chances.run_now, hseeds, Chances.run_requestOr,
        Chances.run_publish, Chances.run_pure, Outcome.andThen_done, hstill]
      rw [store_reported _ fun _ _ => rfl, Store.store_answer_still, hstore]
      rfl

theorem step_settled (c : ChangeRequest) (t : Instant) (found : Option Subscription) (w : World) :
    ∃ o w', w'.store = c.writeAll t found w.store ∧
      (Progress.settled (c.rest found)).step t w = (.ended o, w') := by
  cases found with
  | none => exact ⟨_, w, rfl, rfl⟩
  | some r =>
    have hmap : (Chances.still t).run (some <$> c.work r) w =
        Outcome.andThen ((Chances.still t).run (c.work r) w) fun r w => (.done (some r), w) :=
      (Chances.still t).run_bind ..
    refine ⟨_, _, ?_, rfl⟩
    change ((Chances.still t).run (some <$> c.work r) w).2.store = c.write t r w.store
    rw [hmap, ← run_work c t r w]
    cases (Chances.still t).run (c.work r) w with
    | mk o w' => cases o <;> rfl

end ChangeRequest

namespace Race

variable {race : Race} {x : Bool} {t : Instant} {c : ChangeRequest} {subscriber : Subscriber}

theorem step_of_opened
    (h : race.requests x = .opened (c.operation { subscriber := subscriber })) (t : Instant) :
    (race.step (x, t)).world.store = race.world.store ∧
      (race.step (x, t)).requests x =
        .settled (c.rest (c.target? subscriber t race.world.store)) ∧
      (race.step (x, t)).requests (!x) = race.requests (!x) := by
  obtain ⟨w', hstore, hstep⟩ := c.step_opened subscriber t race.world
  simp [step, h, hstep, hstore]

theorem step_of_settled {found : Option Subscription}
    (h : race.requests x = .settled (c.rest found)) (t : Instant) :
    (race.step (x, t)).world.store = c.writeAll t found race.world.store ∧
      (race.step (x, t)).requests (!x) = race.requests (!x) ∧
      ∃ o, (race.step (x, t)).requests x = .ended o := by
  obtain ⟨o, w', hstore, hstep⟩ := c.step_settled t found race.world
  simp [step, h, hstep, hstore]

theorem step_of_ended {o : Outcome (Option Subscription)} (h : race.requests x = .ended o)
    (t : Instant) :
    (race.step (x, t)).world.store = race.world.store ∧
      (race.step (x, t)).requests x = .ended o := by
  simp [step, h, Progress.step]

end Race

namespace ChangeRequest

/-- One request after the other. -/
theorem store_inTurn (requests : Bool → ChangeRequest) (subscriber : Subscriber) (s : Store)
    (x : Bool) (t₁ t₂ t₃ t₄ : Instant) :
    ((race requests subscriber s).run [(x, t₁), (x, t₂), (!x, t₃), (!x, t₄)]).world.store =
      let between := (requests x).writeAll t₂ ((requests x).target? subscriber t₁ s) s
      (requests !x).writeAll t₄ ((requests !x).target? subscriber t₃ between) between := by
  have hopened : (race requests subscriber s).requests x =
      .opened ((requests x).operation { subscriber := subscriber }) := rfl
  obtain ⟨hstore₁, hfirst₁, hsecond₁⟩ := Race.step_of_opened hopened t₁
  obtain ⟨hstore₂, hsecond₂, _⟩ := Race.step_of_settled hfirst₁ t₂
  obtain ⟨hstore₃, hsecond₃, _⟩ :=
    Race.step_of_opened (hsecond₂.trans hsecond₁) t₃
  obtain ⟨hstore₄, _⟩ := Race.step_of_settled hsecond₃ t₄
  refine hstore₄.trans ?_
  rw [hstore₃, hstore₂, hstore₁]
  rfl

/-- Both look their subscriptions up before one of them writes. -/
theorem store_atOnce (requests : Bool → ChangeRequest) (subscriber : Subscriber) (s : Store)
    (z y : Bool) (t₁ t₂ t₃ t₄ : Instant) :
    ((race requests subscriber s).run [(z, t₁), (!z, t₂), (y, t₃), (!y, t₄)]).world.store =
      (requests !y).writeAll t₄
        ((requests !y).target? subscriber (if (!y) = z then t₁ else t₂) s)
        ((requests y).writeAll t₃
          ((requests y).target? subscriber (if y = z then t₁ else t₂) s) s) := by
  have hopened : (race requests subscriber s).requests z =
      .opened ((requests z).operation { subscriber := subscriber }) := rfl
  obtain ⟨hstore₁, hfirst₁, hsecond₁⟩ := Race.step_of_opened hopened t₁
  obtain ⟨hstore₂, hsecond₂, hfirst₂⟩ := Race.step_of_opened hsecond₁ t₂
  rw [Bool.not_not] at hfirst₂
  have hfound : ∀ x, (((race requests subscriber s).step (z, t₁)).step (!z, t₂)).requests x =
      .settled ((requests x).rest
        ((requests x).target? subscriber (if x = z then t₁ else t₂) s)) := by
    intro x
    rcases Bool.eq_or_eq_not x z with rfl | rfl
    · rw [hfirst₂, hfirst₁]
      simp [race]
    · rw [hsecond₂, hstore₁]
      simp [race]
  obtain ⟨hstore₃, hsecond₃, _⟩ := Race.step_of_settled (hfound y) t₃
  obtain ⟨hstore₄, _⟩ := Race.step_of_settled (hsecond₃.trans (hfound !y)) t₄
  refine hstore₄.trans ?_
  rw [hstore₃, hstore₂, hstore₁]
  rfl

end ChangeRequest

end RecurringBilling
