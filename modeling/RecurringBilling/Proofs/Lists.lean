import Mathlib.Data.List.Count
import Mathlib.Data.List.Forall2
import Mathlib.Data.List.Nodup

/-! Lists of whatever elements: what is found in them, what is left of them, and two lists whose
entries stand for each other one by one. -/

namespace RecurringBilling

variable {α β γ κ : Type}

section

variable {p q : α → Bool} {l : List α}

theorem filter_filter_of_imp (h : ∀ x ∈ l, p x = true → q x = true) :
    (l.filter q).filter p = l.filter p := by
  rw [List.filter_filter]
  refine List.filter_congr fun x hx => ?_
  cases hp : p x with
  | true => rw [h x hx hp, Bool.and_true]
  | false => rw [Bool.false_and]

/-- To look only where the elements that are meant are is to look everywhere. -/
theorem find?_filter_of_imp (h : ∀ x ∈ l, p x = true → q x = true) :
    (l.filter q).find? p = l.find? p := by
  rw [← List.head?_filter, filter_filter_of_imp h, List.head?_filter]

theorem length_filter_le_of_imp (h : ∀ x ∈ l, p x = true → q x = true) :
    (l.filter p).length ≤ (l.filter q).length := by
  simpa only [List.countP_eq_length_filter] using List.countP_mono_left h

/-- An element is found by its key if no other has the same. -/
theorem find?_of_nodup [BEq κ] [LawfulBEq κ] {key : α → κ} (hkeys : (l.map key).Nodup) {x : α}
    (hx : x ∈ l) : l.find? (key · == key x) = some x := by
  induction l with
  | nil => simp at hx
  | cons first rest ih =>
    obtain ⟨hfirst, hrest⟩ := List.nodup_cons.mp hkeys
    rcases List.mem_cons.mp hx with rfl | hx
    · simp
    · have hne : key first ≠ key x := fun h => hfirst (List.mem_map.mpr ⟨x, hx, h.symm⟩)
      simpa [hne] using ih hrest hx

/-- A list in which one element is replaced is searched as before, unless that one is found. -/
theorem find?_replace {earlier later : List α} {old new x : α} (hp : p new = p old)
    (h : (earlier ++ old :: later).find? p = some x) :
    (earlier ++ new :: later).find? p = some x ∨
      x = old ∧ (earlier ++ new :: later).find? p = some new := by
  rw [List.find?_append] at h ⊢
  cases hfound : earlier.find? p with
  | some y => exact .inl (by rw [hfound] at h; exact h)
  | none =>
    rw [hfound, Option.none_or, List.find?_cons] at h
    rw [Option.none_or, List.find?_cons, hp]
    cases hold : p old with
    | true =>
      rw [hold] at h
      exact .inr ⟨(Option.some.inj h).symm, rfl⟩
    | false =>
      rw [hold] at h
      exact .inl h

end

theorem filterMap_cons_toList (f : α → Option β) (a : α) (l : List α) :
    (a :: l).filterMap f = (f a).toList ++ l.filterMap f := by
  rw [List.filterMap_cons]
  cases f a <;> rfl

theorem flatMap_ite (p : α → Prop) [DecidablePred p] (f : α → β) (l : List α) :
    (l.flatMap fun a => if p a then [f a] else []) = (l.filter p).map f := by
  induction l with
  | nil => rfl
  | cons a rest ih => by_cases h : p a <;> simp [h, ih]

theorem flatMap_range_ite {k n : Nat} (h : k < n) (a : α) :
    ((List.range n).flatMap fun i => if k = i then [a] else []) = [a] := by
  have honce : (List.range n).count k = 1 :=
    List.count_eq_one_of_mem List.nodup_range (List.mem_range.mpr h)
  rw [flatMap_ite, List.filter_congr fun i _ => decide_eq_decide.mpr eq_comm, List.filter_eq, honce]
  rfl

/-! ### Entries that stand for each other -/

section

variable {R : α → β → Prop} {l : List α} {bs : List β} (h : List.Forall₂ R l bs)

include h

theorem map_of_forall₂ {f : β → γ} {g : α → γ} (hf : ∀ a b, R a b → f b = g a) :
    bs.map f = l.map g := by
  rw [eq_comm, ← List.forall₂_eq_eq_eq, List.forall₂_map_left_iff, List.forall₂_map_right_iff]
  exact h.imp fun a b hab => (hf a b hab).symm

theorem forall_of_forall₂ {P : β → Prop} (hP : ∀ a b, R a b → P b) : ∀ b ∈ bs, P b := by
  have hboth : List.Forall₂ (fun b a => P b ∧ R a b) bs l :=
    (h.imp fun a b hab => ⟨hP a b hab, hab⟩).flip
  exact ((List.forall₂_and_left bs l).mp hboth).1

theorem rel_head? : Option.Rel R l.head? bs.head? := by
  cases h with
  | nil => exact .none
  | cons hab _ => exact .some hab

section

variable {p : α → Bool} {q : β → Bool} (hpq : ∀ a b, R a b → q b = p a)

include hpq

theorem forall₂_filter : List.Forall₂ R (l.filter p) (bs.filter q) :=
  List.rel_filter (fun a b hab => iff_of_eq (congrArg (· = true) (hpq a b hab).symm)) h

theorem map_filter_of_forall₂ {f : β → γ} {g : α → γ} (hf : ∀ a b, R a b → f b = g a) :
    (bs.filter q).map f = (l.filter p).map g :=
  map_of_forall₂ (forall₂_filter h hpq) hf

theorem length_filter_of_forall₂ : (bs.filter q).length = (l.filter p).length :=
  (forall₂_filter h hpq).length_eq.symm

theorem rel_find? : Option.Rel R (l.find? p) (bs.find? q) := by
  rw [← List.head?_filter, ← List.head?_filter]
  exact rel_head? (forall₂_filter h hpq)

end

end

section

variable {R : κ → β → Prop} {keys : List κ} {bs : List β} (h : List.Forall₂ R keys bs)
  {key : β → κ} (hkey : ∀ k b, R k b → key b = k)

include h hkey

theorem keys_of_forall₂ : bs.map key = keys := by
  rw [map_of_forall₂ h hkey, List.map_id']

/-- What is found by a key, where what an entry has goes by its key. -/
theorem find?_of_forall₂ [DecidableEq κ] {value : β → γ} {v : κ → γ}
    (hvalue : ∀ k b, R k b → value b = v k) (k : κ) :
    (bs.find? (key · = k)).map value = if k ∈ keys then some (v k) else none := by
  have hfound : Option.Rel R (keys.find? (· = k)) (bs.find? (key · = k)) :=
    rel_find? h fun k' b hb => by rw [hkey k' b hb]
  generalize bs.find? (key · = k) = found at hfound ⊢
  generalize hk : keys.find? (· = k) = first at hfound
  cases hfound with
  | none =>
    have hnot : k ∉ keys := fun hmem => by simpa using List.find?_eq_none.mp hk k hmem
    rw [if_neg hnot]
    rfl
  | @some k' b hb =>
    obtain rfl : k' = k := by simpa using List.find?_some hk
    rw [if_pos (List.mem_of_find?_eq_some hk), Option.map_some, hvalue k' b hb]

end

theorem forall₂_filterMap {f : α → Option β} {l : List α} (h : ∀ a ∈ l, ∃ b, f a = some b) :
    List.Forall₂ (fun a b => f a = some b) l (l.filterMap f) := by
  induction l with
  | nil => exact .nil
  | cons a rest ih =>
    obtain ⟨⟨b, hb⟩, hrest⟩ := List.forall_mem_cons.mp h
    rw [List.filterMap_cons_some hb]
    exact .cons hb (ih hrest)

end RecurringBilling
