import RecurringBilling.Proofs.Lifecycle.Creation

/-! The calls on subscriptions, and what each of them can do, whatever others do in between: one
request that writes, if any. -/

namespace RecurringBilling

open Procedure

def Procedure.value? {α : Type} : Procedure α → Option α
  | .done a => some a
  | _ => none

theorem Procedure.eq_done_of_value? {α : Type} {p : Procedure α} {a : α} (h : p.value? = some a) :
    p = .done a := by
  cases p with
  | done b => rw [Option.some.inj h]
  | _ => cases h

/-- A call on subscriptions, each with the rows that its caller has, which may be stale. -/
inductive LifecycleCall where
  | create (creation : Creation)
  | cancel (subscription : Subscription) (immediate : Bool) (reason : Option String)
  | resume (subscription : Subscription)

namespace LifecycleCall

def procedure : LifecycleCall → Procedure Subscription
  | create creation => creation.procedure
  | cancel subscription immediate reason => Subscribing.cancel subscription immediate reason
  | resume subscription => Subscribing.resume subscription

def pool (store : Store) (calls : List LifecycleCall) : Pool Subscription :=
  ⟨{ store := store }, calls.map procedure⟩

end LifecycleCall

namespace Deed

inductive IsLifecycle : Deed → Prop where
  | quiet (s : Store) (call : Call) : IsLifecycle (.asked s s call)
  | announced (event : BillingEvent) : IsLifecycle (.announced event)
  | made {seeds : List ItemSeed} {s s' : Store} {row : Subscription} {creation : Creation}
      {call : Call} (h : Creation.Makes seeds s row s' creation call) :
      IsLifecycle (.asked s s' call)
  | cancelled {s s' : Store} {id : Id} {now : Instant} {immediate : Bool} {reason : Option String}
      {row : Subscription}
      (h : s.updateSubscription id (Subscribing.cancellation now immediate reason) =
        .ok (row, s')) :
      IsLifecycle (.asked s s'
        ⟨.updateSubscription id (Subscribing.cancellation now immediate reason), .ok row⟩)
  | resumed {s s' : Store} {id : Id} {now : Instant} {row : Subscription}
      (h : s.updateSubscription id (Subscribing.resumption now) = .ok (row, s')) :
      IsLifecycle (.asked s s' ⟨.updateSubscription id (Subscribing.resumption now), .ok row⟩)

/-- Whether it takes a subscription up again, so that it is as if it had not been cancelled. -/
def resumes (id : Id) : Deed → Bool
  | asked _ _ ⟨.updateSubscription id' changes, .ok _⟩ =>
    match changes.cancelledAt with
    | .set none => id' == id
    | _ => false
  | _ => false

def Cancels (id : Id) (d : Deed) : Prop :=
  ∃ s s' now immediate reason row,
    d = .asked s s'
      ⟨.updateSubscription id (Subscribing.cancellation now immediate reason), .ok row⟩

end Deed

namespace Subscribing

variable {deeds : List Deed} {o : Outcome Subscription}

theorem ends_cancel {r : Subscription} {immediate : Bool} {reason : Option String}
    (h : (cancel r immediate reason).Ends deeds o) :
    (∃ s call e, deeds = [.asked s s call] ∧ o = .failed e) ∨
    ∃ s s' now row, s.updateSubscription r.id (cancellation now immediate reason) = .ok (row, s') ∧
      deeds = [.asked s s' ⟨.updateSubscription r.id (cancellation now immediate reason),
        .ok row⟩] ∧
      o = .done row := by
  obtain ⟨now, h⟩ := h
  rcases Ends.requestOr_bind h (by simp) with
    ⟨s, e, rfl, rfl⟩ | ⟨s, s', _, row, rest, ha, rfl, hrest⟩
  · exact .inl ⟨s, _, _, rfl, rfl⟩
  · obtain ⟨rfl, rfl⟩ := hrest
    exact .inr ⟨s, s', now, row, ha, rfl, rfl⟩

theorem ends_resume {r : Subscription} (h : (resume r).Ends deeds o) :
    deeds = [] ∨ (∃ s call, deeds = [.asked s s call]) ∨
    ∃ s s' now row, s.updateSubscription r.id (resumption now) = .ok (row, s') ∧
      deeds = [.asked s s' ⟨.updateSubscription r.id (resumption now), .ok row⟩] := by
  obtain ⟨now, h⟩ := h
  cases hresumable : r.isResumableAt now with
  | false =>
    simp only [Procedure.bind, hresumable, Bool.not_false, if_true] at h
    exact .inl h.1
  | true =>
    simp only [Procedure.bind, hresumable, Bool.not_true, Bool.false_eq_true, if_false] at h
    rcases Ends.requestOr_bind h (by simp) with
      ⟨s, e, rfl, rfl⟩ | ⟨s, s', _, row, rest, ha, rfl, hrest⟩
    · exact .inr (.inl ⟨s, _, rfl⟩)
    · obtain ⟨rfl, rfl⟩ := hrest
      exact .inr (.inr ⟨s, s', now, row, ha, rfl⟩)

end Subscribing

namespace LifecycleCall

theorem isLifecycle_of_ends {call : LifecycleCall} {deeds : List Deed} {o : Outcome Subscription}
    (h : call.procedure.Ends deeds o) : ∀ d ∈ deeds, d.IsLifecycle := by
  cases call with
  | create creation =>
    cases Creation.course_of_ends h with
    | refused e hquiet =>
      intro d hd
      obtain ⟨s, asked, rfl⟩ := hquiet d hd
      exact .quiet s asked
    | made hmakes => simpa using ⟨.quiet .., .made hmakes, .announced _⟩
  | cancel subscription immediate reason =>
    rcases Subscribing.ends_cancel h with
      ⟨s, asked, _, rfl, _⟩ | ⟨s, s', now, row, hcancelled, rfl, _⟩
    · simpa using .quiet s asked
    · simpa using .cancelled hcancelled
  | resume subscription =>
    rcases Subscribing.ends_resume h with
      rfl | ⟨s, asked, rfl⟩ | ⟨s, s', now, row, hresumed, rfl⟩
    · simp
    · simpa using .quiet s asked
    · simpa using .resumed hresumed

theorem isLifecycle_of_mem_deeds (store : Store) (calls : List LifecycleCall) (moves : List Move) :
    ∀ d ∈ ((pool store calls).deeds moves).map (·.2), d.IsLifecycle :=
  Pool.forall_deeds_map fun _ _ _ => isLifecycle_of_ends

end LifecycleCall

end RecurringBilling
