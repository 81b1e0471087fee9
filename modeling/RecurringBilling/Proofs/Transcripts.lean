import RecurringBilling.Proofs.Deeds

/-! Transcripts of procedures: the requests with their replies, whoever gave them. How a procedure
can end after a transcript is read off its text, so that nothing is assumed of the storage. -/

namespace RecurringBilling

namespace Procedure

variable {α β σ : Type} {r : Request} {calls : List Call}

/-- Whether the procedure can end so when its requests are replied to like this. -/
def Hears : Procedure α → List Call → Outcome α → Prop
  | done a, calls, o => calls = [] ∧ o = .done a
  | fail e, calls, o => calls = [] ∧ o = .failed e
  | halt fault, calls, o => calls = [] ∧ o = .halted fault
  | ask r next, calls, o => ∃ reply rest, calls = ⟨r, reply⟩ :: rest ∧ (next reply).Hears rest o
  | note _ next, calls, o => next.Hears calls o
  | announce _ next, calls, o => next.Hears calls o
  | clock next, calls, o => ∃ now, (next now).Hears calls o
  | drawNumber next, calls, o => ∃ number, (next number).Hears calls o

theorem Hears.bind {p : Procedure α} {f : α → Procedure β} {o : Outcome β}
    (h : (p >>= f).Hears calls o) :
    ∃ early late between, calls = early ++ late ∧ p.Hears early between ∧
      (ended between >>= f).Hears late o := by
  change (p.bind f).Hears calls o at h
  induction p generalizing calls with
  | done a => exact ⟨[], calls, .done a, rfl, ⟨rfl, rfl⟩, h⟩
  | fail e => exact ⟨[], calls, .failed e, rfl, ⟨rfl, rfl⟩, h⟩
  | halt fault => exact ⟨[], calls, .halted fault, rfl, ⟨rfl, rfl⟩, h⟩
  | ask r next ih =>
    obtain ⟨reply, rest, rfl, h⟩ := h
    obtain ⟨early, late, between, rfl, hearly, hlate⟩ := ih reply h
    exact ⟨_ :: early, late, between, rfl, ⟨reply, early, rfl, hearly⟩, hlate⟩
  | note record next ih => exact ih h
  | announce event next ih => exact ih h
  | clock next ih =>
    obtain ⟨now, h⟩ := h
    obtain ⟨early, late, between, hcalls, hearly, hlate⟩ := ih now h
    exact ⟨early, late, between, hcalls, ⟨now, hearly⟩, hlate⟩
  | drawNumber next ih =>
    obtain ⟨number, h⟩ := h
    obtain ⟨early, late, between, hcalls, hearly, hlate⟩ := ih number h
    exact ⟨early, late, between, hcalls, ⟨number, hearly⟩, hlate⟩

theorem Hears.attempt {p : Procedure α} {o : Outcome (Except BillingError α)}
    (h : p.attempt.Hears calls o) :
    ∃ between, p.Hears calls between ∧ (ended between).attempt.Hears [] o := by
  induction p generalizing calls with
  | done a => exact ⟨.done a, ⟨h.1, rfl⟩, rfl, h.2⟩
  | fail e => exact ⟨.failed e, ⟨h.1, rfl⟩, rfl, h.2⟩
  | halt fault => exact ⟨.halted fault, ⟨h.1, rfl⟩, rfl, h.2⟩
  | ask r next ih =>
    obtain ⟨reply, rest, rfl, h⟩ := h
    obtain ⟨between, hp, ho⟩ := ih reply h
    exact ⟨between, ⟨reply, rest, rfl, hp⟩, ho⟩
  | note record next ih => exact ih h
  | announce event next ih => exact ih h
  | clock next ih =>
    obtain ⟨now, h⟩ := h
    obtain ⟨between, hp, ho⟩ := ih now h
    exact ⟨between, ⟨now, hp⟩, ho⟩
  | drawNumber next ih =>
    obtain ⟨number, h⟩ := h
    obtain ⟨between, hp, ho⟩ := ih number h
    exact ⟨between, ⟨number, hp⟩, ho⟩

theorem Hears.attempt_bind {p : Procedure α} {f : Except BillingError α → Procedure β}
    {o : Outcome β} (h : (p.attempt >>= f).Hears calls o) :
    ∃ early late between, calls = early ++ late ∧ p.Hears early between ∧
      ((ended between).attempt >>= f).Hears late o := by
  obtain ⟨early, late, caught, hcalls, hearly, hlate⟩ := h.bind
  obtain ⟨between, hp, hcaught⟩ := hearly.attempt
  refine ⟨early, late, between, hcalls, hp, ?_⟩
  cases between <;> obtain rfl := hcaught.2 <;> exact hlate

section

variable {f : r.Reply → Procedure β} {o : Outcome β}

/-- A request is refused and ends the procedure, or it is answered and the rest follows. -/
theorem Hears.request_bind (h : (request r >>= f).Hears calls o) :
    (∃ e, calls = [⟨r, .error e⟩] ∧ o = .failed (.storage e)) ∨
      ∃ reply rest, calls = ⟨r, .ok reply⟩ :: rest ∧ (f reply).Hears rest o := by
  obtain ⟨reply, rest, rfl, h⟩ := h
  cases reply with
  | error e =>
    obtain ⟨rfl, rfl⟩ := h
    exact .inl ⟨e, rfl, rfl⟩
  | ok reply => exact .inr ⟨reply, rest, rfl, h⟩

theorem Hears.requestOr_bind {level : LogLevel} {target message : String}
    {fields : StorageError → List (String × LogValue)}
    (h : ((requestOr r fun e => log level target message (fields e)) >>= f).Hears calls o) :
    (∃ e, calls = [⟨r, .error e⟩] ∧ o = .failed (.storage e)) ∨
      ∃ reply rest, calls = ⟨r, .ok reply⟩ :: rest ∧ (f reply).Hears rest o := by
  refine Hears.request_bind ?_
  obtain ⟨reply, rest, hcalls, h⟩ := h
  refine ⟨reply, rest, hcalls, ?_⟩
  cases reply <;> exact h

theorem Hears.done_bind {a : α} {f : α → Procedure β} {o : Outcome β}
    (h : (ended (.done a) >>= f).Hears calls o) : (f a).Hears calls o := h

theorem Hears.log_bind {level : LogLevel} {target message : String}
    {fields : List (String × LogValue)} {f : Unit → Procedure β}
    (h : (log level target message fields >>= f).Hears calls o) : (f ()).Hears calls o := h

/-- A request whose reply is logged and returned. -/
theorem Hears.requestOr_log {level level' : LogLevel} {target target' message message' : String}
    {fields : StorageError → List (String × LogValue)} {shown : r.Reply → List (String × LogValue)}
    {o : Outcome r.Reply}
    (h : Hears (do
      let reply ← requestOr r fun e => log level target message (fields e)
      log level' target' message' (shown reply)
      return reply) calls o) :
    (∃ e, calls = [⟨r, .error e⟩] ∧ o = .failed (.storage e)) ∨
      ∃ reply, calls = [⟨r, .ok reply⟩] ∧ o = .done reply := by
  rcases Hears.requestOr_bind h with h | ⟨reply, rest, rfl, rfl, ho⟩
  · exact .inl h
  · exact .inr ⟨reply, rfl, ho⟩

end

/-- The requests that a run makes, with the replies of the backend. -/
def transcript (b : Backend σ) : Procedure α → σ → List Call
  | ask r next, s =>
    match b.answer r s with
    | (.ok reply, s') => ⟨r, reply⟩ :: (next reply).transcript b s'
    | (.error _, _) => []
  | note record next, s => next.transcript b (b.note record s)
  | announce event next, s => next.transcript b (b.announce event s)
  | clock next, s => (next (b.clock s)).transcript b s
  | drawNumber next, s => (next (b.drawNumber s).1).transcript b (b.drawNumber s).2
  | _, _ => []

/-- A run ends as the procedure can after its transcript, unless the backend halts it. -/
theorem hears_run (b : Backend σ) (p : Procedure α) (s : σ) :
    p.Hears (p.transcript b s) (p.run b s).1 ∨
      ∃ fault, (p.run b s).1 = .halted fault ∧ ∃ r s', (b.answer r s').1 = .error fault := by
  induction p generalizing s with
  | done a => exact .inl ⟨rfl, rfl⟩
  | fail e => exact .inl ⟨rfl, rfl⟩
  | halt fault => exact .inl ⟨rfl, rfl⟩
  | ask r next ih =>
    unfold transcript run
    rcases ha : b.answer r s with ⟨fault | reply, s'⟩
    · exact .inr ⟨fault, rfl, r, s, by rw [ha]⟩
    · rcases ih reply s' with h | h
      · exact .inl ⟨reply, _, rfl, h⟩
      · exact .inr h
  | note record next ih => exact ih _
  | announce event next ih => exact ih _
  | clock next ih =>
    rcases ih (b.clock s) s with h | h
    · exact .inl ⟨b.clock s, h⟩
    · exact .inr h
  | drawNumber next ih =>
    rcases ih (b.drawNumber s).1 (b.drawNumber s).2 with h | h
    · exact .inl ⟨(b.drawNumber s).1, h⟩
    · exact .inr h

end Procedure

/-- Whether the store gives those replies in this order, and is left so. -/
def Store.Replies (s : Store) : List Call → Store → Prop
  | [], s' => s' = s
  | c :: rest, s' => ∃ between, c.Answers s between ∧ between.Replies rest s'

theorem Store.replies_append {s s' : Store} {calls calls' : List Call} :
    s.Replies (calls ++ calls') s' ↔
      ∃ between, s.Replies calls between ∧ between.Replies calls' s' := by
  induction calls generalizing s with
  | nil => simp [Replies]
  | cons c rest ih =>
    simp only [List.cons_append, Replies, ih]
    constructor
    · rintro ⟨first, hc, between, hrest, h⟩
      exact ⟨between, ⟨first, hc, hrest⟩, h⟩
    · rintro ⟨between, ⟨first, hc, hrest⟩, h⟩
      exact ⟨first, hc, between, hrest, h⟩

/-- What a world's store has become is what it replied. -/
theorem Chances.replies_run {α : Type} (env : Chances) (p : Procedure α) (w : World) :
    w.store.Replies (p.transcript env.backend w) (env.run p w).2.store := by
  unfold run
  induction p generalizing w with
  | done a => rfl
  | fail e => rfl
  | halt fault => rfl
  | ask r next ih =>
    simp only [Procedure.transcript, Procedure.run, backend]
    rcases w.answer_cases (env w) r with ⟨e, ha⟩ | ⟨reply, s, _, hs, ha⟩ | ⟨fault, hs, ha⟩
    · rw [ha]
      exact ⟨w.store, .refused rfl, ih (.error e) (w.called r (.error e))⟩
    · rw [ha]
      exact ⟨s, .answered hs, ih (.ok reply) ((w.withStore s).called r (.ok reply))⟩
    · rw [ha]
      rfl
  | note record next ih => exact ih w
  | announce event next ih => exact ih (w.announced event)
  | clock next ih => exact ih _ w
  | drawNumber next ih => exact ih _ w

end RecurringBilling
