import RecurringBilling.Store
import RecurringBilling.Procedure

/-! Runs over the store while time passes and the storage may refuse any request. A world keeps the
calls made so far, so that it can be said afterwards which of them failed. -/

namespace RecurringBilling

/-- A request that was made, with its reply. -/
structure Call where
  request : Request
  reply : Except StorageError request.Reply

namespace Call

def isRefused (c : Call) : Bool :=
  match c.reply with
  | .ok _ => false
  | .error _ => true

@[simp] theorem isRefused_ok (r : Request) (reply : r.Reply) :
    isRefused ⟨r, @Except.ok StorageError (no_index r.Reply) reply⟩ = false := rfl

@[simp] theorem isRefused_error (r : Request) (e : StorageError) :
    isRefused ⟨r, @Except.error StorageError (no_index r.Reply) e⟩ = true := rfl

def Refused (calls : List Call) (r : Request) : Prop := ∃ c ∈ calls, c.request = r ∧ c.isRefused

def Answered (calls : List Call) (r : Request) : Prop := ∃ c ∈ calls, c.request = r ∧ !c.isRefused

variable {c : Call} {calls calls' : List Call} {r : Request}

@[simp] theorem refused_cons :
    Refused (c :: calls) r ↔ (c.request = r ∧ c.isRefused) ∨ Refused calls r := by
  simp [Refused]

@[simp] theorem refused_append :
    Refused (calls ++ calls') r ↔ Refused calls r ∨ Refused calls' r := by
  simp [Refused, or_and_right, exists_or]

theorem not_refused_of_forall (h : ∀ c ∈ calls, c.request ≠ r) : ¬ Refused calls r := by
  rintro ⟨c, hc, hr, _⟩
  exact h c hc hr

end Call

/-- The store with what has happened to it: calls and events, the latest last. -/
structure World where
  store : Store
  calls : List Call := []
  events : List BillingEvent := []

/-- What a step cannot foresee: the time, a refusal by the storage, and the number it draws. -/
structure Chance where
  now : Instant
  refusal : Option StorageError := none
  number : String := ""

namespace World

def called (w : World) (r : Request) (reply : Except StorageError r.Reply) : World :=
  { w with calls := w.calls ++ [⟨r, reply⟩] }

def withStore (w : World) (s : Store) : World := { w with store := s }

def announced (w : World) (event : BillingEvent) : World := { w with events := w.events ++ [event] }

/-- Answers a request from the store, or refuses it and leaves the store as it is. -/
def answer (c : Chance) (r : Request) (w : World) :
    Except ArithmeticFault (Except StorageError r.Reply) × World :=
  match c.refusal with
  | some e => (.ok (.error e), w.called r (.error e))
  | none =>
    match w.store.answer c.now r with
    | .ok (reply, s) => (.ok (.ok reply), (w.withStore s).called r (.ok reply))
    | .error (.error e) => (.ok (.error e), w.called r (.error e))
    | .error (.fault fault) => (.error fault, w)

/-- A request is refused, answered from the store, or halted; only an answer touches the store. -/
theorem answer_cases (c : Chance) (r : Request) (w : World) :
    (∃ e, w.answer c r = (.ok (.error e), w.called r (.error e))) ∨
    (∃ reply s, c.refusal = none ∧ w.store.answer c.now r = .ok (reply, s) ∧
      w.answer c r = (.ok (.ok reply), (w.withStore s).called r (.ok reply))) ∨
    ∃ fault, w.store.answer c.now r = .error (.fault fault) ∧ w.answer c r = (.error fault, w) := by
  cases hc : c.refusal with
  | some e => exact .inl ⟨e, by simp [answer, hc]⟩
  | none =>
    cases ha : w.store.answer c.now r with
    | ok answered => exact .inr (.inl ⟨answered.1, answered.2, rfl, rfl, by simp [answer, hc, ha]⟩)
    | error refusal =>
      cases refusal with
      | error e => exact .inl ⟨e, by simp [answer, hc, ha]⟩
      | fault fault => exact .inr (.inr ⟨fault, rfl, by simp [answer, hc, ha]⟩)

theorem answer_cases_of_ne_fault (c : Chance) (r : Request) (w : World)
    (h : ∀ fault, w.store.answer c.now r ≠ .error (.fault fault)) :
    (∃ e w', w.answer c r = (.ok (.error e), w') ∧ w'.store = w.store ∧
      w'.calls = w.calls ++ [⟨r, .error e⟩]) ∨
    ∃ reply w', w.answer c r = (.ok (.ok reply), w') ∧
      w.store.answer c.now r = .ok (reply, w'.store) ∧ w'.calls = w.calls ++ [⟨r, .ok reply⟩] := by
  rcases w.answer_cases c r with ⟨e, ha⟩ | ⟨reply, s, _, hs, ha⟩ | ⟨fault, hs, _⟩
  · exact .inl ⟨e, _, ha, rfl, rfl⟩
  · exact .inr ⟨reply, _, ha, hs, rfl⟩
  · exact absurd hs (h fault)

end World

/-- What each step of a run meets. It may depend on all that has happened before. -/
abbrev Chances := World → Chance

namespace Chances

def backend (env : Chances) : Backend World where
  answer r w := w.answer (env w) r
  note _ w := w
  announce event w := w.announced event
  clock w := (env w).now
  drawNumber w := ((env w).number, w)

def run {α : Type} (env : Chances) (p : Procedure α) (w : World) : Outcome α × World :=
  p.run env.backend w

end Chances

namespace Outcome

variable {α β : Type} {σ : Type}

/-- Goes on from the value of an outcome, if there is one. -/
def andThen : Outcome α × σ → (α → σ → Outcome β × σ) → Outcome β × σ
  | (done a, s), next => next a s
  | (failed e, s), _ => (failed e, s)
  | (halted fault, s), _ => (halted fault, s)

def caught : Outcome α × σ → Outcome (Except BillingError α) × σ
  | (done a, s) => (done (.ok a), s)
  | (failed e, s) => (done (.error e), s)
  | (halted fault, s) => (halted fault, s)

def map (f : α → β) : Outcome α → Outcome β
  | done a => done (f a)
  | failed e => failed e
  | halted fault => halted fault

/-- The outcome of a request that was made. -/
def ofReply : Except ArithmeticFault (Except StorageError α) × σ → Outcome α × σ
  | (.ok (.ok reply), s) => (done reply, s)
  | (.ok (.error e), s) => (failed (.storage e), s)
  | (.error fault, s) => (halted fault, s)

@[simp] theorem andThen_done (a : α) (s : σ) (next : α → σ → Outcome β × σ) :
    andThen (done a, s) next = next a s := rfl

@[simp] theorem andThen_failed (e : BillingError) (s : σ) (next : α → σ → Outcome β × σ) :
    andThen (failed e, s) next = (failed e, s) := rfl

@[simp] theorem andThen_halted (fault : ArithmeticFault) (s : σ)
    (next : α → σ → Outcome β × σ) : andThen (halted fault, s) next = (halted fault, s) := rfl

@[simp] theorem andThen_pure (x : Outcome α × σ) : andThen x (fun a s => (done a, s)) = x := by
  obtain ⟨outcome, s⟩ := x
  cases outcome <;> rfl

theorem andThen_map (f : α → β) (outcome : Outcome α) (s : σ) :
    andThen (outcome, s) (fun a s => (done (f a), s)) = (outcome.map f, s) := by
  cases outcome <;> rfl

theorem map_ne_halted {f : α → β} {outcome : Outcome α} (h : ∀ fault, outcome ≠ halted fault)
    (fault : ArithmeticFault) : outcome.map f ≠ halted fault := by
  cases outcome with
  | done a => simp [map]
  | failed e => simp [map]
  | halted fault => exact absurd rfl (h fault)

@[simp] theorem caught_done (a : α) (s : σ) : caught (done a, s) = (done (.ok a), s) := rfl

@[simp] theorem caught_failed (e : BillingError) (s : σ) :
    caught (failed e, s) = (done (.error e : Except BillingError α), s) := rfl

@[simp] theorem caught_halted (fault : ArithmeticFault) (s : σ) :
    caught (halted fault, s) = ((halted fault : Outcome (Except BillingError α)), s) := rfl

@[simp] theorem ofReply_ok (reply : α) (s : σ) : ofReply (.ok (.ok reply), s) = (done reply, s) :=
  rfl

@[simp] theorem ofReply_refused (e : StorageError) (s : σ) :
    ofReply (.ok (.error e), s) = ((failed (.storage e) : Outcome α), s) := rfl

@[simp] theorem ofReply_halted (fault : ArithmeticFault) (s : σ) :
    ofReply (.error fault, s) = ((halted fault : Outcome α), s) := rfl

end Outcome

namespace Chances

open Procedure

variable {α β : Type} (env : Chances)

@[simp] theorem run_bind (p : Procedure α) (f : α → Procedure β) (w : World) :
    env.run (p >>= f) w = Outcome.andThen (env.run p w) fun a w => env.run (f a) w := by
  change (p.bind f).run env.backend w = Outcome.andThen (p.run env.backend w) _
  induction p generalizing w with
  | done a => rfl
  | fail e => rfl
  | halt fault => rfl
  | ask r next ih =>
    simp only [Procedure.bind, Procedure.run]
    split
    · exact ih _ _
    · rfl
  | note record next ih => exact ih _
  | announce event next ih => exact ih _
  | clock next ih => exact ih _ _
  | drawNumber next ih => exact ih _ _

@[simp] theorem run_attempt (p : Procedure α) (w : World) :
    env.run p.attempt w = Outcome.caught (env.run p w) := by
  unfold run
  induction p generalizing w with
  | done a => rfl
  | fail e => rfl
  | halt fault => rfl
  | ask r next ih =>
    simp only [Procedure.attempt, Procedure.run]
    split
    · exact ih _ _
    · rfl
  | note record next ih => exact ih _
  | announce event next ih => exact ih _
  | clock next ih => exact ih _ _
  | drawNumber next ih => exact ih _ _

theorem run_ask (r : Request) (next : Except StorageError r.Reply → Procedure α) (w : World) :
    env.run (ask r next) w = match w.answer (env w) r with
      | (.ok reply, w') => env.run (next reply) w'
      | (.error fault, w') => (.halted fault, w') := by
  simp only [run, Procedure.run, backend]
  split <;> rename_i h <;> rw [h]

@[simp] theorem run_pure (a : α) (w : World) :
    env.run (pure a : Procedure α) w = (.done a, w) := rfl

@[simp] theorem run_fail (e : BillingError) (w : World) :
    env.run (fail e : Procedure α) w = (.failed e, w) := rfl

@[simp] theorem run_compute_ok (a : α) (w : World) :
    env.run (compute (.ok a)) w = (.done a, w) := rfl

@[simp] theorem run_compute_error (fault : ArithmeticFault) (w : World) :
    env.run (compute (.error fault) : Procedure α) w = (.halted fault, w) := rfl

@[simp] theorem run_log (level : LogLevel) (target message : String)
    (fields : List (String × LogValue)) (w : World) :
    env.run (log level target message fields) w = (.done (), w) := rfl

@[simp] theorem run_publish (event : BillingEvent) (w : World) :
    env.run (publish event) w = (.done (), w.announced event) := rfl

@[simp] theorem run_now (w : World) : env.run now w = (.done (env w).now, w) := rfl

@[simp] theorem run_invoiceNumber (w : World) :
    env.run invoiceNumber w = (.done (env w).number, w) := rfl

@[simp] theorem run_request (r : Request) (w : World) :
    @run (no_index r.Reply) env (request r) w = Outcome.ofReply (w.answer (env w) r) := by
  simp only [run, request, Procedure.run, backend]
  split <;> rename_i h <;> rw [h]
  · rename_i reply _
    cases reply <;> rfl
  · rfl

@[simp] theorem run_requestOr (r : Request) (level : LogLevel) (target message : String)
    (fields : StorageError → List (String × LogValue)) (w : World) :
    @run (no_index r.Reply) env (requestOr r fun e => log level target message (fields e)) w =
      Outcome.ofReply (w.answer (env w) r) := by
  rw [← run_request]
  simp only [run, request, requestOr, Procedure.run]
  split
  · rename_i reply _ _
    cases reply <;> rfl
  · rfl

/-- Whether the storage refuses nothing. -/
def Calm (env : Chances) : Prop := ∀ w, (env w).refusal = none

theorem Calm.answer {env : Chances} (h : env.Calm) {r : Request} {w : World} {reply : r.Reply}
    {s : Store} (ha : w.store.answer (env w).now r = .ok (reply, s)) :
    ∃ w', w.answer (env w) r = (.ok (.ok reply), w') ∧ w'.store = s :=
  ⟨(w.withStore s).called r (.ok reply), by simp [World.answer, h w, ha], rfl⟩

end Chances

end RecurringBilling
