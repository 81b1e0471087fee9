import RecurringBilling.Proofs.World

/-! Calls at the same time. A call is a procedure that is carried out step by step, and between two
of its steps the others may take any number of theirs. What every step keeps from any store in which
it holds is kept by all interleavings. -/

namespace RecurringBilling

namespace Procedure

variable {α β : Type}

def step (c : Chance) : Procedure α → World → Procedure α × World
  | ask r next, w =>
    match w.answer c r with
    | (.ok reply, w) => (next reply, w)
    | (.error fault, w) => (halt fault, w)
  | note _ next, w => (next, w)
  | announce event next, w => (next, w.announced event)
  | clock next, w => (next c.now, w)
  | drawNumber next, w => (next c.number, w)
  | ended, w => (ended, w)

/-- Every request that the procedure comes to keeps the invariant in any store that meets it, and
its result meets the condition, whatever others do to the store in between. -/
def Keeps (inv : Store → Prop) (post : α → Prop) : Procedure α → Prop
  | done a => post a
  | fail _ => True
  | halt _ => True
  | ask r next =>
    (∀ e, (next (.error e)).Keeps inv post) ∧
      ∀ now s reply s', inv s → s.answer now r = .ok (reply, s') →
        inv s' ∧ (next (.ok reply)).Keeps inv post
  | note _ next => next.Keeps inv post
  | announce _ next => next.Keeps inv post
  | clock next => ∀ now, (next now).Keeps inv post
  | drawNumber next => ∀ number, (next number).Keeps inv post

theorem Keeps.bind {inv : Store → Prop} {mid : α → Prop} {post : β → Prop} {p : Procedure α}
    {f : α → Procedure β} (hp : p.Keeps inv mid) (hf : ∀ a, mid a → (f a).Keeps inv post) :
    (p >>= f).Keeps inv post := by
  change (p.bind f).Keeps inv post
  induction p with
  | done a => exact hf a hp
  | fail e => trivial
  | halt fault => trivial
  | ask r next ih =>
    refine ⟨fun e => ih _ (hp.1 e), ?_⟩
    intro now s reply s' hs ha
    have h := hp.2 now s reply s' hs ha
    exact ⟨h.1, ih _ h.2⟩
  | note record next ih => exact ih hp
  | announce event next ih => exact ih hp
  | clock next ih => exact fun now => ih now (hp now)
  | drawNumber next ih => exact fun number => ih number (hp number)

theorem Keeps.map {inv : Store → Prop} {post : α → Prop} {p : Procedure α} (f : α → β)
    (hp : p.Keeps inv post) : (f <$> p).Keeps inv fun _ => True :=
  hp.bind fun _ _ => trivial

theorem Keeps.attempt {inv : Store → Prop} {post : α → Prop} {p : Procedure α}
    (hp : p.Keeps inv post) : p.attempt.Keeps inv fun _ => True := by
  induction p with
  | done a => trivial
  | fail e => trivial
  | halt fault => trivial
  | ask r next ih =>
    refine ⟨fun e => ih _ (hp.1 e), ?_⟩
    intro now s reply s' hs ha
    have h := hp.2 now s reply s' hs ha
    exact ⟨h.1, ih _ h.2⟩
  | note record next ih => exact ih hp
  | announce event next ih => exact ih hp
  | clock next ih => exact fun now => ih now (hp now)
  | drawNumber next ih => exact fun number => ih number (hp number)

theorem Keeps.foldlM {inv : Store → Prop} {f : β → α → Procedure β} {rows : List α}
    (hf : ∀ b, ∀ a ∈ rows, (f b a).Keeps inv fun _ => True) (b : β) :
    (rows.foldlM f b).Keeps inv fun _ => True := by
  induction rows generalizing b with
  | nil => trivial
  | cons a rest ih =>
    refine (hf b a (by simp)).bind fun b _ => ih (fun b x hx => hf b x (by simp [hx])) b

theorem keeps_log {inv : Store → Prop} {level : LogLevel} {target message : String}
    {fields : List (String × LogValue)} :
    (log level target message fields).Keeps inv fun _ => True := trivial

theorem keeps_publish {inv : Store → Prop} {event : BillingEvent} :
    (publish event).Keeps inv fun _ => True := trivial

theorem keeps_compute {inv : Store → Prop} (result : Except ArithmeticFault α) :
    (compute result).Keeps inv fun a => result = .ok a := by
  cases result with
  | ok a => rfl
  | error fault => trivial

theorem keeps_request {inv : Store → Prop} {r : Request} (post : r.Reply → Prop)
    (h : ∀ now s reply s', inv s → s.answer now r = .ok (reply, s') → inv s' ∧ post reply) :
    (request r).Keeps inv post :=
  ⟨fun _ => trivial, h⟩

theorem keeps_requestOr {inv : Store → Prop} {r : Request} (post : r.Reply → Prop)
    {complain : StorageError → Procedure Unit}
    (hc : ∀ e, (complain e).Keeps inv fun _ => True)
    (h : ∀ now s reply s', inv s → s.answer now r = .ok (reply, s') → inv s' ∧ post reply) :
    (requestOr r complain).Keeps inv post :=
  ⟨fun e => (hc e).bind fun _ _ => trivial, h⟩

theorem Keeps.step {inv : Store → Prop} {post : α → Prop} {p : Procedure α} (hp : p.Keeps inv post)
    (c : Chance) {w : World} (hw : inv w.store) :
    (p.step c w).1.Keeps inv post ∧ inv (p.step c w).2.store := by
  cases p with
  | done a => exact ⟨hp, hw⟩
  | fail e => exact ⟨hp, hw⟩
  | halt fault => exact ⟨hp, hw⟩
  | ask r next =>
    rcases w.answer_cases c r with ⟨e, ha⟩ | ⟨reply, s, _, hs, ha⟩ | ⟨fault, _, ha⟩
    · simp only [Procedure.step, ha]
      exact ⟨hp.1 e, hw⟩
    · have h := hp.2 _ _ _ _ hw hs
      simp only [Procedure.step, ha]
      exact ⟨h.2, h.1⟩
    · simp only [Procedure.step, ha]
      exact ⟨trivial, hw⟩
  | note record next => exact ⟨hp, hw⟩
  | announce event next => exact ⟨hp, hw⟩
  | clock next => exact ⟨hp c.now, hw⟩
  | drawNumber next => exact ⟨hp c.number, hw⟩

/-- A call that is carried out alone keeps what every one of its requests keeps. -/
theorem Keeps.run {inv : Store → Prop} {post : α → Prop} {p : Procedure α} (hp : p.Keeps inv post)
    (env : Chances) {w : World} (hw : inv w.store) : inv (env.run p w).2.store := by
  unfold Chances.run
  induction p generalizing w with
  | done a => exact hw
  | fail e => exact hw
  | halt fault => exact hw
  | ask r next ih =>
    simp only [Procedure.run, Chances.backend]
    rcases w.answer_cases (env w) r with ⟨e, ha⟩ | ⟨reply, s, _, hs, ha⟩ | ⟨fault, _, ha⟩
    · rw [ha]
      exact ih _ (hp.1 e) (w := w.called r (.error e)) hw
    · have h := hp.2 _ _ _ _ hw hs
      rw [ha]
      exact ih _ h.2 (w := (w.withStore s).called r (.ok reply)) h.1
    · rw [ha]
      exact hw
  | note record next ih => exact ih hp hw
  | announce event next ih => exact ih hp (w := w.announced event) hw
  | clock next ih => exact ih _ (hp _) hw
  | drawNumber next ih => exact ih _ (hp _) hw

end Procedure

/-- Calls at the same time: the world that they share, and what is left of each. -/
structure Pool (α : Type) where
  world : World
  calls : List (Procedure α)

/-- Which call takes the next step, and what that step meets. -/
structure Move where
  call : Nat
  chance : Chance

namespace Pool

variable {α : Type}

def step (pool : Pool α) (m : Move) : Pool α :=
  match pool.calls[m.call]? with
  | none => pool
  | some p =>
    let (rest, world) := p.step m.chance pool.world
    ⟨world, pool.calls.set m.call rest⟩

/-- An interleaving: one step after the other, each of any of the calls. -/
def run (pool : Pool α) (moves : List Move) : Pool α := moves.foldl step pool

/-- The invariant holds, and every call keeps it from here on. -/
structure Keeps (inv : Store → Prop) (pool : Pool α) : Prop where
  holds : inv pool.world.store
  calls : ∀ p ∈ pool.calls, p.Keeps inv fun _ => True

theorem Keeps.step {inv : Store → Prop} {pool : Pool α} (h : pool.Keeps inv) (m : Move) :
    (pool.step m).Keeps inv := by
  unfold Pool.step
  cases hp : pool.calls[m.call]? with
  | none => exact h
  | some p =>
    have hk := (h.calls p (List.mem_of_getElem? hp)).step m.chance h.holds
    refine ⟨hk.2, ?_⟩
    intro q hq
    rcases List.mem_or_eq_of_mem_set hq with hq | rfl
    · exact h.calls q hq
    · exact hk.1

theorem Keeps.run {inv : Store → Prop} {pool : Pool α} (h : pool.Keeps inv) (moves : List Move) :
    (pool.run moves).Keeps inv := by
  induction moves generalizing pool with
  | nil => exact h
  | cons m rest ih => exact ih (h.step m)

end Pool

end RecurringBilling
