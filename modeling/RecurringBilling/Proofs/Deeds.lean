import Mathlib.Data.List.Perm.Basic
import RecurringBilling.Proofs.Interleaving
import RecurringBilling.Proofs.Lists
import RecurringBilling.Proofs.Schedule.Listings

/-! What procedures do, in order: the requests that got a reply, each with the store before and
after it, and the events. Which deeds a procedure can have done when it has ended is read off its
text, whatever others did to the store between its steps. -/

namespace RecurringBilling

/-- Whether the reply is one of the storage to the store as it was before; a refusal leaves that. -/
inductive Call.Answers : Call → Store → Store → Prop where
  | answered {r : Request} {before after : Store} {now : Instant} {reply : r.Reply}
      (h : before.answer now r = .ok (reply, after)) : Answers ⟨r, .ok reply⟩ before after
  | refused {r : Request} {before after : Store} {e : StorageError} (h : after = before) :
      Answers ⟨r, .error e⟩ before after

inductive Deed where
  | asked (before after : Store) (call : Call)
  | announced (event : BillingEvent)

namespace Deed

def call? : Deed → Option Call
  | asked _ _ call => some call
  | announced _ => none

def event? : Deed → Option BillingEvent
  | asked .. => none
  | announced event => some event

@[simp] theorem call?_asked (before after : Store) (call : Call) :
    (asked before after call).call? = some call := rfl

@[simp] theorem call?_announced (event : BillingEvent) : (announced event).call? = none := rfl

@[simp] theorem event?_asked (before after : Store) (call : Call) :
    (asked before after call).event? = none := rfl

@[simp] theorem event?_announced (event : BillingEvent) :
    (announced event).event? = some event := rfl

/-- Whether each deed finds the store as the one before left it. -/
def Chained (s : Store) : List Deed → Store → Prop
  | [], s' => s' = s
  | asked before after _ :: rest, s' => before = s ∧ Chained after rest s'
  | announced _ :: rest, s' => Chained s rest s'

theorem chained_append {s s' : Store} {deeds deeds' : List Deed} :
    Chained s (deeds ++ deeds') s' ↔ ∃ between, Chained s deeds between ∧
      Chained between deeds' s' := by
  induction deeds generalizing s with
  | nil => simp [Chained]
  | cons d rest ih =>
    cases d with
    | asked before after call => simp [Chained, ih, and_assoc]
    | announced event => exact ih

theorem Chained.keeps {inv : Store → Prop} {s s' : Store} {deeds : List Deed}
    (h : Chained s deeds s')
    (hstep : ∀ before after call, .asked before after call ∈ deeds → inv before → inv after)
    (hs : inv s) : inv s' := by
  induction deeds generalizing s with
  | nil =>
    obtain rfl : s' = s := h
    exact hs
  | cons d rest ih =>
    have hrest : ∀ before after call, .asked before after call ∈ rest → inv before → inv after :=
      fun before after call hmem => hstep before after call (by simp [hmem])
    cases d with
    | asked before after call =>
      obtain ⟨rfl, hchain⟩ := h
      exact ih hchain hrest (hstep before after call (by simp) hs)
    | announced event => exact ih h hrest hs

structure Leads (w : World) (deeds : List Deed) (w' : World) : Prop where
  stores : Chained w.store deeds w'.store
  calls : w'.calls = w.calls ++ deeds.filterMap call?
  events : w'.events = w.events ++ deeds.filterMap event?

variable {w w' w'' : World} {deeds deeds' : List Deed}

theorem Leads.nothing (w : World) : Leads w [] w := ⟨rfl, by simp, by simp⟩

theorem Leads.trans (h : Leads w deeds w') (h' : Leads w' deeds' w'') :
    Leads w (deeds ++ deeds') w'' where
  stores := chained_append.mpr ⟨w'.store, h.stores, h'.stores⟩
  calls := by rw [h'.calls, h.calls, List.filterMap_append, List.append_assoc]
  events := by rw [h'.events, h.events, List.filterMap_append, List.append_assoc]

theorem leads_called (w : World) (s : Store) (r : Request) (reply : Except StorageError r.Reply) :
    Leads w [asked w.store s ⟨r, reply⟩] ((w.withStore s).called r reply) :=
  ⟨⟨rfl, rfl⟩, rfl, (List.append_nil _).symm⟩

theorem leads_announced (w : World) (event : BillingEvent) :
    Leads w [announced event] (w.announced event) := ⟨rfl, (List.append_nil _).symm, rfl⟩

end Deed

namespace Procedure

variable {α β : Type} {deeds : List Deed}

def stepDeeds (c : Chance) : Procedure α → World → List Deed
  | ask r _, w =>
    match w.answer c r with
    | (.ok reply, w') => [.asked w.store w'.store ⟨r, reply⟩]
    | (.error _, _) => []
  | announce event _, _ => [.announced event]
  | _, _ => []

/-- Whether the procedure can end so after just these deeds. -/
def Ends : Procedure α → List Deed → Outcome α → Prop
  | done a, deeds, o => deeds = [] ∧ o = .done a
  | fail e, deeds, o => deeds = [] ∧ o = .failed e
  | halt fault, deeds, o => deeds = [] ∧ o = .halted fault
  | ask r next, deeds, o =>
    (∃ before now fault, Store.answer before now r = .error (.fault fault) ∧ deeds = [] ∧
      o = .halted fault) ∨
    ∃ before after reply rest, Call.Answers ⟨r, reply⟩ before after ∧
      deeds = .asked before after ⟨r, reply⟩ :: rest ∧ (next reply).Ends rest o
  | note _ next, deeds, o => next.Ends deeds o
  | announce event next, deeds, o => ∃ rest, deeds = .announced event :: rest ∧ next.Ends rest o
  | clock next, deeds, o => ∃ now, (next now).Ends deeds o
  | drawNumber next, deeds, o => ∃ number, (next number).Ends deeds o

theorem exists_ends (p : Procedure α) : ∃ deeds o, p.Ends deeds o := by
  induction p with
  | done a => exact ⟨[], _, rfl, rfl⟩
  | fail e => exact ⟨[], _, rfl, rfl⟩
  | halt fault => exact ⟨[], _, rfl, rfl⟩
  | ask r next ih =>
    obtain ⟨deeds, o, h⟩ := ih (.error .recordNotFound)
    exact ⟨_, o, .inr ⟨{}, {}, _, deeds, .refused rfl, rfl, h⟩⟩
  | note record next ih => exact ih
  | announce event next ih =>
    obtain ⟨deeds, o, h⟩ := ih
    exact ⟨_, o, deeds, rfl, h⟩
  | clock next ih =>
    obtain ⟨deeds, o, h⟩ := ih .first
    exact ⟨deeds, o, .first, h⟩
  | drawNumber next ih =>
    obtain ⟨deeds, o, h⟩ := ih ""
    exact ⟨deeds, o, "", h⟩

def ended : Outcome α → Procedure α
  | .done a => done a
  | .failed e => fail e
  | .halted fault => halt fault

theorem ends_ended {o o' : Outcome α} : (ended o).Ends deeds o' ↔ deeds = [] ∧ o' = o := by
  cases o <;> rfl

/-- One procedure after the other: the deeds of the first, and those of the second if the first has
a value. -/
theorem Ends.bind {p : Procedure α} {f : α → Procedure β} {o : Outcome β}
    (h : (p >>= f).Ends deeds o) :
    ∃ early late between, deeds = early ++ late ∧ p.Ends early between ∧
      (ended between >>= f).Ends late o := by
  change (p.bind f).Ends deeds o at h
  induction p generalizing deeds with
  | done a => exact ⟨[], deeds, .done a, rfl, ⟨rfl, rfl⟩, h⟩
  | fail e => exact ⟨[], deeds, .failed e, rfl, ⟨rfl, rfl⟩, h⟩
  | halt fault => exact ⟨[], deeds, .halted fault, rfl, ⟨rfl, rfl⟩, h⟩
  | ask r next ih =>
    rcases h with ⟨before, now, fault, hfault, rfl, rfl⟩ | ⟨before, after, reply, rest, ha, rfl, h⟩
    · exact ⟨[], [], .halted fault, rfl, .inl ⟨before, now, fault, hfault, rfl, rfl⟩, rfl, rfl⟩
    · obtain ⟨early, late, between, rfl, hearly, hlate⟩ := ih reply h
      exact ⟨_ :: early, late, between, rfl, .inr ⟨before, after, reply, early, ha, rfl, hearly⟩,
        hlate⟩
  | note record next ih => exact ih h
  | announce event next ih =>
    obtain ⟨rest, rfl, h⟩ := h
    obtain ⟨early, late, between, rfl, hearly, hlate⟩ := ih h
    exact ⟨_ :: early, late, between, rfl, ⟨early, rfl, hearly⟩, hlate⟩
  | clock next ih =>
    obtain ⟨now, h⟩ := h
    obtain ⟨early, late, between, rfl, hearly, hlate⟩ := ih now h
    exact ⟨early, late, between, rfl, ⟨now, hearly⟩, hlate⟩
  | drawNumber next ih =>
    obtain ⟨number, h⟩ := h
    obtain ⟨early, late, between, rfl, hearly, hlate⟩ := ih number h
    exact ⟨early, late, between, rfl, ⟨number, hearly⟩, hlate⟩

theorem Ends.compute_bind {result : Except ArithmeticFault α} {f : α → Procedure β} {o : Outcome β}
    (h : (compute result >>= f).Ends deeds o) :
    (∃ fault, result = .error fault ∧ deeds = [] ∧ o = .halted fault) ∨
      ∃ a, result = .ok a ∧ (f a).Ends deeds o := by
  cases result with
  | ok a => exact .inr ⟨a, rfl, h⟩
  | error fault => exact .inl ⟨fault, rfl, h⟩

theorem Ends.map {p : Procedure α} {f : α → β} {o : Outcome β} (h : (f <$> p).Ends deeds o) :
    ∃ between, p.Ends deeds between ∧ o = between.map f := by
  obtain ⟨early, late, between, rfl, hearly, hlate⟩ := Ends.bind h
  cases between with
  | _ =>
    obtain ⟨rfl, rfl⟩ := hlate
    exact ⟨_, by simpa using hearly, rfl⟩

section

variable {r : Request} {f : r.Reply → Procedure β} {o : Outcome β}

/-- A request is refused and nothing comes after it, or it is answered and the rest follows. -/
def AskedFirst (r : Request) (f : r.Reply → Procedure β) (deeds : List Deed) (o : Outcome β) :
    Prop :=
  (∃ s e, deeds = [.asked s s ⟨r, .error e⟩] ∧ o = .failed (.storage e)) ∨
  ∃ before after now reply rest, Store.answer before now r = .ok (reply, after) ∧
    deeds = .asked before after ⟨r, .ok reply⟩ :: rest ∧ (f reply).Ends rest o

theorem Ends.request_bind (h : (request r >>= f).Ends deeds o)
    (hr : ∀ date autoRenew, r ≠ .listExpiring date autoRenew) : AskedFirst r f deeds o := by
  rcases h with ⟨before, now, fault, hfault, _, _⟩ | ⟨before, after, reply, rest, ha, rfl, h⟩
  · obtain ⟨date, autoRenew, hlisting⟩ := Store.answer_fault hfault
    exact absurd hlisting (hr date autoRenew)
  · cases reply with
    | error e =>
      obtain ⟨rfl, rfl⟩ := h
      cases ha with
      | refused hsame => exact .inl ⟨before, e, by rw [hsame], rfl⟩
    | ok reply =>
      cases ha with
      | answered ha => exact .inr ⟨before, after, _, reply, rest, ha, rfl, h⟩

theorem Ends.requestOr_bind {level : LogLevel} {target message : String}
    {fields : StorageError → List (String × LogValue)}
    (h : ((requestOr r fun e => log level target message (fields e)) >>= f).Ends deeds o)
    (hr : ∀ date autoRenew, r ≠ .listExpiring date autoRenew) : AskedFirst r f deeds o := by
  refine Ends.request_bind ?_ hr
  rcases h with h | ⟨before, after, reply, rest, ha, hdeeds, h⟩
  · exact .inl h
  · refine .inr ⟨before, after, reply, rest, ha, hdeeds, ?_⟩
    cases reply <;> exact h

end

theorem Ends.step {p : Procedure α} {c : Chance} {w : World} {o : Outcome α}
    (h : (p.step c w).1.Ends deeds o) : p.Ends (p.stepDeeds c w ++ deeds) o := by
  cases p with
  | done a => exact h
  | fail e => exact h
  | halt fault => exact h
  | ask r next =>
    rcases w.answer_cases c r with ⟨e, ha⟩ | ⟨reply, s, _, hs, ha⟩ | ⟨fault, hs, ha⟩
    · simp only [Procedure.step, ha] at h
      simp only [stepDeeds, ha]
      exact .inr ⟨w.store, w.store, .error e, deeds, .refused rfl, rfl, h⟩
    · simp only [Procedure.step, ha] at h
      simp only [stepDeeds, ha]
      exact .inr ⟨w.store, s, .ok reply, deeds, .answered hs, rfl, h⟩
    · simp only [Procedure.step, ha] at h
      simp only [stepDeeds, ha]
      exact .inl ⟨w.store, c.now, fault, hs, h⟩
  | note record next => exact h
  | announce event next => exact ⟨deeds, rfl, h⟩
  | clock next => exact ⟨c.now, h⟩
  | drawNumber next => exact ⟨c.number, h⟩

theorem leads_step (p : Procedure α) (c : Chance) (w : World) :
    Deed.Leads w (p.stepDeeds c w) (p.step c w).2 := by
  cases p with
  | ask r next =>
    rcases w.answer_cases c r with ⟨e, ha⟩ | ⟨reply, s, _, _, ha⟩ | ⟨fault, _, ha⟩
    · simp only [Procedure.step, stepDeeds, ha]
      exact Deed.leads_called w w.store r (.error e)
    · simp only [Procedure.step, stepDeeds, ha]
      exact Deed.leads_called w s r (.ok reply)
    · simp only [Procedure.step, stepDeeds, ha]
      exact .nothing w
  | announce event next => exact Deed.leads_announced w event
  | _ => exact .nothing w

end Procedure

namespace Chances

variable {α : Type} (env : Chances)

/-- What a procedure does that is carried out alone. -/
def deeds : Procedure α → World → List Deed
  | .ask r next, w =>
    match w.answer (env w) r with
    | (.ok reply, w') => .asked w.store w'.store ⟨r, reply⟩ :: deeds (next reply) w'
    | (.error _, _) => []
  | .note _ next, w => deeds next w
  | .announce event next, w => .announced event :: deeds next (w.announced event)
  | .clock next, w => deeds (next (env w).now) w
  | .drawNumber next, w => deeds (next (env w).number) w
  | _, _ => []

theorem ends_run (p : Procedure α) (w : World) :
    p.Ends (env.deeds p w) (env.run p w).1 ∧ Deed.Leads w (env.deeds p w) (env.run p w).2 := by
  unfold run
  induction p generalizing w with
  | done a => exact ⟨⟨rfl, rfl⟩, .nothing w⟩
  | fail e => exact ⟨⟨rfl, rfl⟩, .nothing w⟩
  | halt fault => exact ⟨⟨rfl, rfl⟩, .nothing w⟩
  | ask r next ih =>
    simp only [deeds, Procedure.run, backend]
    rcases w.answer_cases (env w) r with ⟨e, ha⟩ | ⟨reply, s, _, hs, ha⟩ | ⟨fault, hs, ha⟩
    · rw [ha]
      have hrest := ih (.error e) (w.called r (.error e))
      exact ⟨.inr ⟨_, _, _, _, .refused rfl, rfl, hrest.1⟩,
        (Deed.leads_called w w.store r (.error e)).trans hrest.2⟩
    · rw [ha]
      have hrest := ih (.ok reply) ((w.withStore s).called r (.ok reply))
      exact ⟨.inr ⟨_, _, _, _, .answered hs, rfl, hrest.1⟩,
        (Deed.leads_called w s r (.ok reply)).trans hrest.2⟩
    · rw [ha]
      exact ⟨.inl ⟨w.store, (env w).now, fault, hs, rfl, rfl⟩, .nothing w⟩
  | note record next ih => exact ih w
  | announce event next ih =>
    have hrest := ih (w.announced event)
    exact ⟨⟨_, rfl, hrest.1⟩, (Deed.leads_announced w event).trans hrest.2⟩
  | clock next ih => exact ⟨⟨(env w).now, (ih _ w).1⟩, (ih _ w).2⟩
  | drawNumber next ih => exact ⟨⟨(env w).number, (ih _ w).1⟩, (ih _ w).2⟩

end Chances

namespace Deed

def of (call : Nat) (deeds : List (Nat × Deed)) : List Deed :=
  deeds.filterMap fun (caller, d) => if caller = call then some d else none

@[simp] theorem of_nil (call : Nat) : of call [] = [] := rfl

@[simp] theorem of_append (call : Nat) (deeds deeds' : List (Nat × Deed)) :
    of call (deeds ++ deeds') = of call deeds ++ of call deeds' := List.filterMap_append

theorem of_map_same (call : Nat) (deeds : List Deed) :
    of call (deeds.map fun d => (call, d)) = deeds := by
  simp [of, List.filterMap_map]

theorem of_map_other {call caller : Nat} (h : caller ≠ call) (deeds : List Deed) :
    of call (deeds.map fun d => (caller, d)) = [] := by
  simp [of, List.filterMap_map, h]

theorem mem_of {call : Nat} {d : Deed} {deeds : List (Nat × Deed)} :
    d ∈ of call deeds ↔ (call, d) ∈ deeds := by
  simp only [of, List.mem_filterMap, Option.ite_none_right_eq_some, Option.some.injEq]
  constructor
  · rintro ⟨⟨caller, d'⟩, hmem, rfl, rfl⟩
    exact hmem
  · intro hmem
    exact ⟨(call, d), hmem, rfl, rfl⟩

theorem perm_of {deeds : List (Nat × Deed)} {n : Nat} (h : ∀ d ∈ deeds, d.1 < n) :
    (deeds.map (·.2)).Perm ((List.range n).flatMap fun call => of call deeds) := by
  induction deeds with
  | nil => simp
  | cons d rest ih =>
    obtain ⟨hd, hrest⟩ := List.forall_mem_cons.mp h
    have hsplit : ∀ call, of call (d :: rest) =
        (if d.1 = call then [d.2] else []) ++ of call rest := by
      intro call
      by_cases hcall : d.1 = call <;> simp [of, hcall]
    have hmerge := List.flatMap_append_perm (List.range n)
      (fun call => if d.1 = call then [d.2] else []) fun call => of call rest
    rw [flatMap_range_ite hd] at hmerge
    simp only [List.map_cons, hsplit]
    exact ((ih hrest).cons d.2).trans hmerge

end Deed

namespace Pool

variable {α : Type}

def stepDeeds (pool : Pool α) (m : Move) : List (Nat × Deed) :=
  match pool.calls[m.call]? with
  | none => []
  | some p => (p.stepDeeds m.chance pool.world).map fun d => (m.call, d)

/-- What an interleaving does, each deed with the call whose it is. -/
def deeds (pool : Pool α) : List Move → List (Nat × Deed)
  | [] => []
  | m :: rest => pool.stepDeeds m ++ (pool.step m).deeds rest

theorem leads_run (pool : Pool α) (moves : List Move) :
    Deed.Leads pool.world ((pool.deeds moves).map (·.2)) (pool.run moves).world := by
  induction moves generalizing pool with
  | nil => exact .nothing _
  | cons m rest ih =>
    have hstep : Deed.Leads pool.world ((pool.stepDeeds m).map (·.2)) (pool.step m).world := by
      unfold stepDeeds Pool.step
      cases pool.calls[m.call]? with
      | none => exact .nothing _
      | some p => simpa [Function.comp_def] using p.leads_step m.chance pool.world
    rw [deeds, List.map_append]
    exact hstep.trans (ih (pool.step m))

theorem length_calls_step (pool : Pool α) (m : Move) :
    (pool.step m).calls.length = pool.calls.length := by
  unfold Pool.step
  cases pool.calls[m.call]? <;> simp

theorem length_calls_run (pool : Pool α) (moves : List Move) :
    (pool.run moves).calls.length = pool.calls.length := by
  induction moves generalizing pool with
  | nil => rfl
  | cons m rest ih => exact (ih (pool.step m)).trans (pool.length_calls_step m)

theorem lt_of_mem_deeds {pool : Pool α} {moves : List Move} :
    ∀ d ∈ pool.deeds moves, d.1 < pool.calls.length := by
  induction moves generalizing pool with
  | nil => simp [deeds]
  | cons m rest ih =>
    intro d hd
    rcases List.mem_append.mp hd with hd | hd
    · unfold stepDeeds at hd
      cases hp : pool.calls[m.call]? with
      | none => simp [hp] at hd
      | some p =>
        obtain ⟨_, _, rfl⟩ := List.mem_map.mp (by simpa [hp] using hd)
        exact (List.getElem?_eq_some_iff.mp hp).1
    · exact Nat.lt_of_lt_of_eq (ih d hd) (pool.length_calls_step m)

/-- A call that has ended did, between the steps of the others, what it can do alone. -/
theorem ends_of {pool : Pool α} {moves : List Move} {call : Nat} {p rest : Procedure α}
    {late : List Deed} {o : Outcome α} (hp : pool.calls[call]? = some p)
    (hrest : (pool.run moves).calls[call]? = some rest) (hends : rest.Ends late o) :
    p.Ends (Deed.of call (pool.deeds moves) ++ late) o := by
  induction moves generalizing pool p with
  | nil =>
    obtain rfl : p = rest := Option.some.inj (hp.symm.trans hrest)
    exact hends
  | cons m moves ih =>
    rw [deeds, Deed.of_append, List.append_assoc]
    by_cases hcall : m.call = call
    · subst hcall
      obtain ⟨hlt, hget⟩ := List.getElem?_eq_some_iff.mp hp
      have hstep : (pool.step m).calls[m.call]? = some (p.step m.chance pool.world).1 := by
        simp [Pool.step, hlt, hget]
      have hends := (ih hstep hrest).step
      simpa only [stepDeeds, hp, Deed.of_map_same] using hends
    · have hstep : (pool.step m).calls[call]? = some p := by
        unfold Pool.step
        cases pool.calls[m.call]? <;> simp [hp, hcall]
      have hnone : Deed.of call (pool.stepDeeds m) = [] := by
        unfold stepDeeds
        cases pool.calls[m.call]? with
        | none => rfl
        | some q => exact Deed.of_map_other hcall _
      rw [hnone]
      exact ih hstep hrest

theorem ends {pool : Pool α} {moves : List Move} {outcomes : List (Outcome α)}
    (hended : (pool.run moves).calls = outcomes.map .ended) {call : Nat} {p : Procedure α}
    (hp : pool.calls[call]? = some p) :
    ∃ o, outcomes[call]? = some o ∧ p.Ends (Deed.of call (pool.deeds moves)) o := by
  have hlength := pool.length_calls_run moves
  have hlt := (List.getElem?_eq_some_iff.mp hp).1
  rw [hended, List.length_map] at hlength
  have hget : outcomes[call]? = some outcomes[call] := List.getElem?_eq_getElem (by omega)
  refine ⟨outcomes[call], hget, ?_⟩
  have hrest : (pool.run moves).calls[call]? = some (.ended outcomes[call]) := by
    rw [hended, List.getElem?_map, hget]
    rfl
  simpa using ends_of hp hrest (Procedure.ends_ended.mpr ⟨rfl, rfl⟩)

theorem forall_deeds {pool : Pool α} {moves : List Move} {P : Deed → Prop}
    (h : ∀ p ∈ pool.calls, ∀ deeds o, p.Ends deeds o → ∀ d ∈ deeds, P d) :
    ∀ d ∈ (pool.deeds moves).map (·.2), P d := by
  intro d hd
  obtain ⟨⟨call, _⟩, hmem, rfl⟩ := List.mem_map.mp hd
  have hlt := lt_of_mem_deeds _ hmem
  have hp := List.getElem?_eq_getElem hlt
  have hlt' : call < (pool.run moves).calls.length := by
    rw [pool.length_calls_run]
    exact hlt
  have hrest := List.getElem?_eq_getElem hlt'
  -- a call that is not at its end yet can still come to one
  obtain ⟨late, o, hlate⟩ := (pool.run moves).calls[call].exists_ends
  have hends := ends_of hp hrest hlate
  exact h _ (List.mem_of_getElem? hp) _ o hends _ (List.mem_append_left _ (Deed.mem_of.mpr hmem))

section

/-! A pool of calls of one kind. -/

variable {κ : Type} {procedure : κ → Procedure α} {w : World} {calls : List κ} {moves : List Move}

theorem lt_of_mem_deeds_map {d : Nat × Deed}
    (hd : d ∈ (Pool.mk w (calls.map procedure)).deeds moves) : d.1 < calls.length :=
  Nat.lt_of_lt_of_eq (lt_of_mem_deeds d hd) (List.length_map procedure)

theorem ends_map {outcomes : List (Outcome α)}
    (hended : ((Pool.mk w (calls.map procedure)).run moves).calls = outcomes.map .ended) {i : Nat}
    {c : κ} (hc : calls[i]? = some c) :
    ∃ o, outcomes[i]? = some o ∧
      (procedure c).Ends (Deed.of i ((Pool.mk w (calls.map procedure)).deeds moves)) o :=
  ends hended (by rw [List.getElem?_map, hc, Option.map_some])

theorem forall_deeds_map {P : Deed → Prop}
    (h : ∀ c deeds o, (procedure c).Ends deeds o → ∀ d ∈ deeds, P d) :
    ∀ d ∈ ((Pool.mk w (calls.map procedure)).deeds moves).map (·.2), P d := by
  refine forall_deeds fun p hp deeds o hends => ?_
  obtain ⟨c, _, rfl⟩ := List.mem_map.mp hp
  exact h c deeds o hends

end

end Pool

end RecurringBilling
