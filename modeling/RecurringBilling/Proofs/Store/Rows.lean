import Mathlib.Data.List.Basic
import RecurringBilling.Proofs.Lists
import RecurringBilling.Store

/-! Rows that are updated in place and rows that are sorted. -/

namespace RecurringBilling

variable {α : Type}

theorem mem_sortedBy {before : α → α → Bool} {rows : List α} {row : α} :
    row ∈ sortedBy before rows ↔ row ∈ rows := List.mem_mergeSort

theorem sortedBy_perm (before : α → α → Bool) (rows : List α) :
    (sortedBy before rows).Perm rows := List.mergeSort_perm _ _

theorem sortedBy_pair (before : α → α → Bool) (a b : α) :
    sortedBy before [a, b] = if before b a then [b, a] else [a, b] := by
  rw [sortedBy, List.mergeSort]
  cases h : before b a <;> simp [List.MergeSort.Internal.splitInTwo, h]

/-- An update changes one row, the first that meets the condition, and leaves it where it is. -/
theorem modifyFirst?_eq_some {p : α → Bool} {f : α → α} {rows rows' : List α} {row : α}
    (h : modifyFirst? p f rows = some (row, rows')) :
    ∃ before old after, rows = before ++ old :: after ∧ rows.find? p = some old ∧
      row = f old ∧ rows' = before ++ f old :: after ∧ ∀ x ∈ before, p x = false := by
  induction rows generalizing row rows' with
  | nil => simp [modifyFirst?] at h
  | cons x rest ih =>
    by_cases hx : p x = true
    · simp only [modifyFirst?, hx, if_true, Option.some.injEq, Prod.mk.injEq] at h
      exact ⟨[], x, rest, rfl, by simp [hx], h.1.symm, h.2.symm, by simp⟩
    · cases hr : modifyFirst? p f rest with
      | none => simp [modifyFirst?, hx, hr] at h
      | some result =>
        obtain ⟨changed, rest'⟩ := result
        simp only [modifyFirst?, hx, hr, Bool.false_eq_true, if_false, Option.map_some,
          Option.some.injEq, Prod.mk.injEq] at h
        obtain ⟨rfl, rfl⟩ := h
        obtain ⟨before, old, after, rfl, hfind, rfl, rfl, hbefore⟩ := ih hr
        exact ⟨x :: before, old, after, rfl, by simpa [hx] using hfind, rfl, rfl,
          by simpa [hx] using hbefore⟩

theorem modifyFirst?_eq_none {p : α → Bool} {f : α → α} {rows : List α}
    (h : modifyFirst? p f rows = none) : ∀ x ∈ rows, p x = false := by
  induction rows with
  | nil => simp
  | cons x rest ih =>
    by_cases hx : p x = true
    · simp [modifyFirst?, hx] at h
    · have hrest : modifyFirst? p f rest = none := by simpa [modifyFirst?, hx] using h
      have hx : p x = false := by simpa using hx
      exact List.forall_mem_cons.mpr ⟨hx, ih hrest⟩

theorem mem_of_modifyFirst? {p : α → Bool} {f : α → α} {rows rows' : List α} {row x : α}
    (h : modifyFirst? p f rows = some (row, rows')) (hx : x ∈ rows') :
    x ∈ rows ∨ ∃ old ∈ rows, p old = true ∧ x = f old := by
  obtain ⟨before, old, after, hrows, hfind, _, rfl, _⟩ := modifyFirst?_eq_some h
  rcases List.mem_append.mp hx with hx | hx
  · exact .inl (hrows ▸ List.mem_append_left _ hx)
  · rcases List.mem_cons.mp hx with rfl | hx
    · exact .inr ⟨old, List.mem_of_find?_eq_some hfind, List.find?_some hfind, rfl⟩
    · exact .inl (hrows ▸ List.mem_append_right _ (List.mem_cons_of_mem _ hx))

theorem map_modifyFirst?_of_find? {β : Type} {p : α → Bool} {f : α → α} {rows rows' : List α}
    {row : α} (h : modifyFirst? p f rows = some (row, rows')) (g : α → β)
    (hg : ∀ x, rows.find? p = some x → g (f x) = g x) : rows'.map g = rows.map g := by
  obtain ⟨before, old, after, rfl, hfind, _, rfl, _⟩ := modifyFirst?_eq_some h
  simp [hg old hfind]

theorem map_modifyFirst? {β : Type} {p : α → Bool} {f : α → α} {rows rows' : List α} {row : α}
    (h : modifyFirst? p f rows = some (row, rows')) (g : α → β) (hg : ∀ x, g (f x) = g x) :
    rows'.map g = rows.map g := map_modifyFirst?_of_find? h g fun x _ => hg x

theorem modifyFirst?_of_find? {p : α → Bool} {rows : List α} {row : α}
    (h : rows.find? p = some row) (f : α → α) :
    ∃ rows', modifyFirst? p f rows = some (f row, rows') := by
  induction rows with
  | nil => simp at h
  | cons x rest ih =>
    by_cases hx : p x = true
    · simp only [List.find?_cons, hx, Option.some.injEq] at h
      subst h
      exact ⟨f x :: rest, by simp [modifyFirst?, hx]⟩
    · simp only [List.find?_cons, hx] at h
      obtain ⟨rest', hr⟩ := ih h
      exact ⟨x :: rest', by simp [modifyFirst?, hx, hr]⟩

theorem find?_modifyFirst? {p : α → Bool} {f : α → α} {rows rows' : List α} {row : α}
    (h : modifyFirst? p f rows = some (row, rows')) (hp : ∀ x, p (f x) = p x) :
    rows'.find? p = some row := by
  obtain ⟨before, old, after, _, hfind, rfl, rfl, hbefore⟩ := modifyFirst?_eq_some h
  have hnone : before.find? p = none := by simpa using hbefore
  simp [hnone, hp, List.find?_some hfind]

theorem modifyFirst?_congr {p : α → Bool} {f g : α → α} {rows : List α}
    (h : ∀ x, rows.find? p = some x → f x = g x) : modifyFirst? p f rows = modifyFirst? p g rows := by
  induction rows with
  | nil => rfl
  | cons x rest ih =>
    by_cases hx : p x = true
    · simp [modifyFirst?, hx, h x (by simp [hx])]
    · have hrest := ih fun y hy => h y (by simpa [hx] using hy)
      simp [modifyFirst?, hx, hrest]

/-- Two updates of a row that keep it in its place are one. -/
theorem modifyFirst?_modifyFirst? {p : α → Bool} {f : α → α} {rows rows' : List α} {row : α}
    (h : modifyFirst? p f rows = some (row, rows')) (hp : ∀ x, p (f x) = p x) (g : α → α) :
    modifyFirst? p g rows' = modifyFirst? p (fun x => g (f x)) rows := by
  obtain ⟨before, old, after, rfl, hfind, _, rfl, hbefore⟩ := modifyFirst?_eq_some h
  have hold : p old = true := List.find?_some hfind
  clear h hfind
  induction before with
  | nil => simp [modifyFirst?, hold, hp]
  | cons x rest ih =>
    obtain ⟨hx, hrest⟩ := List.forall_mem_cons.mp hbefore
    simp [modifyFirst?, hx, ih hrest]

/-- A row is updated if there is one, and otherwise comes behind the others; then it is found. -/
theorem modifyFirst?_or_append {p : α → Bool} {f : α → α} (new : α)
    (hf : ∀ x, p x = true → p (f x) = true) (hnew : p new = true) (rows : List α) :
    (∃ old rows', modifyFirst? p f rows = some (f old, rows') ∧ rows.find? p = some old ∧
      rows'.find? p = some (f old)) ∨
    modifyFirst? p f rows = none ∧ rows.find? p = none ∧
      (rows ++ [new]).find? p = some new := by
  cases hm : modifyFirst? p f rows with
  | none =>
    have hnone : rows.find? p = none :=
      List.find?_eq_none.mpr fun x hx => by simp [modifyFirst?_eq_none hm x hx]
    exact .inr ⟨rfl, hnone, by simp [hnone, hnew]⟩
  | some result =>
    obtain ⟨before, old, after, _, hfind, hrow, hrows, hbefore⟩ := modifyFirst?_eq_some hm
    have hnone : before.find? p = none := by simpa using hbefore
    refine .inl ⟨old, result.2, by rw [← hrow], hfind, ?_⟩
    rw [hrows]
    simp [hnone, hf old (List.find?_some hfind)]

theorem find?_modifyFirst?_of_not {p q : α → Bool} {f : α → α} {rows rows' : List α} {row : α}
    (h : modifyFirst? p f rows = some (row, rows')) (hq : ∀ x, p x = true → q x = false)
    (hf : ∀ x, q (f x) = q x) : rows'.find? q = rows.find? q := by
  obtain ⟨before, old, after, rfl, hfind, _, rfl, _⟩ := modifyFirst?_eq_some h
  simp [hf, hq old (List.find?_some hfind)]

/-- Rows that are left out do not matter to an update of one that is not. -/
theorem modifyFirst?_filter {p q : α → Bool} {f : α → α} {rows : List α}
    (h : ∀ x ∈ rows, p x = true → q x = true) (hf : ∀ x, q (f x) = q x) :
    modifyFirst? p f (rows.filter q) =
      (modifyFirst? p f rows).map fun x => (x.1, x.2.filter q) := by
  induction rows with
  | nil => rfl
  | cons x rest ih =>
    have ih := ih fun y hy => h y (List.mem_cons_of_mem x hy)
    cases hp : p x with
    | true =>
      have hq := h x (by simp) hp
      simp [modifyFirst?, hp, hq, hf]
    | false =>
      cases hq : q x with
      | true =>
        cases hr : modifyFirst? p f rest <;> simp [modifyFirst?, hp, hq, ih, hr]
      | false =>
        cases hr : modifyFirst? p f rest <;> simp [modifyFirst?, hp, hq, ih, hr]

/-- Rows that are left out are not changed. -/
theorem filter_modifyFirst? {p q : α → Bool} {f : α → α} {rows rows' : List α} {row : α}
    (h : modifyFirst? p f rows = some (row, rows'))
    (hq : ∀ x ∈ rows, p x = true → q x = false) (hf : ∀ x, q (f x) = q x) :
    rows'.filter q = rows.filter q := by
  obtain ⟨before, old, after, rfl, hfind, _, rfl, _⟩ := modifyFirst?_eq_some h
  have hold : q old = false := hq old (by simp) (List.find?_some hfind)
  simp [hf, hold]

/-- Changes the first row that meets the condition, if there is one. -/
def amendFirst (p : α → Bool) (f : α → α) : List α → List α
  | [] => []
  | row :: rest => if p row then f row :: rest else row :: amendFirst p f rest

theorem amendFirst_of_forall {p : α → Bool} {f : α → α} {rows : List α}
    (h : ∀ x ∈ rows, p x = false) : amendFirst p f rows = rows := by
  induction rows with
  | nil => rfl
  | cons x rest ih =>
    obtain ⟨hx, hrest⟩ := List.forall_mem_cons.mp h
    simp [amendFirst, hx, ih hrest]

theorem amendFirst_append {p : α → Bool} {f : α → α} {rows : List α} (more : List α)
    (h : ∃ x ∈ rows, p x = true) : amendFirst p f (rows ++ more) = amendFirst p f rows ++ more := by
  induction rows with
  | nil => simp at h
  | cons x rest ih =>
    cases hx : p x with
    | true => simp [amendFirst, hx]
    | false =>
      obtain ⟨y, hy, hpy⟩ := h
      have hrest : ∃ x ∈ rest, p x = true := by
        rcases List.mem_cons.mp hy with rfl | hy
        · rw [hx] at hpy
          cases hpy
        · exact ⟨y, hy, hpy⟩
      simp [amendFirst, hx, ih hrest]

theorem amendFirst_comm {p q : α → Bool} {f g : α → α} (hpq : ∀ x, p x = true → q x = false)
    (hg : ∀ x, p (g x) = p x) (hf : ∀ x, q (f x) = q x) (rows : List α) :
    amendFirst p f (amendFirst q g rows) = amendFirst q g (amendFirst p f rows) := by
  induction rows with
  | nil => rfl
  | cons x rest ih =>
    cases hp : p x with
    | true => simp [amendFirst, hp, hpq x hp, hf]
    | false => cases hq : q x <;> simp [amendFirst, hp, hq, hg, ih]

theorem map_amendFirst {β : Type} {p : α → Bool} {f : α → α} (g : α → β)
    (hg : ∀ x, g (f x) = g x) (rows : List α) : (amendFirst p f rows).map g = rows.map g := by
  induction rows with
  | nil => rfl
  | cons x rest ih => cases hp : p x <;> simp [amendFirst, hp, hg, ih]

/-- Rows that are the same to `g` are so after a change that is the same to `g`. -/
theorem map_amendFirst_congr {β : Type} {p : α → Bool} {f f' : α → α} {g : α → β}
    (hp : ∀ x y, g x = g y → p x = p y) (hf : ∀ x y, g x = g y → g (f x) = g (f' y))
    {rows rows' : List α} (h : rows.map g = rows'.map g) :
    (amendFirst p f rows).map g = (amendFirst p f' rows').map g := by
  induction rows generalizing rows' with
  | nil =>
    obtain rfl : rows' = [] := List.map_eq_nil_iff.mp h.symm
    rfl
  | cons x rest ih =>
    cases rows' with
    | nil => simp at h
    | cons y rest' =>
      obtain ⟨hxy, hrest⟩ := List.cons.inj h
      rw [amendFirst, amendFirst, hp x y hxy]
      split
      · rw [List.map_cons, List.map_cons, hf x y hxy, hrest]
      · rw [List.map_cons, List.map_cons, hxy, ih hrest]

theorem filter_amendFirst {p q : α → Bool} {f : α → α} {rows : List α}
    (h : ∀ x ∈ rows, p x = true → q x = false ∧ q (f x) = false) :
    (amendFirst p f rows).filter q = rows.filter q := by
  induction rows with
  | nil => rfl
  | cons x rest ih =>
    obtain ⟨hx, hrest⟩ := List.forall_mem_cons.mp h
    cases hp : p x with
    | true => simp [amendFirst, hp, hx hp]
    | false => simp only [amendFirst, hp, Bool.false_eq_true, if_false, List.filter_cons, ih hrest]

theorem mem_amendFirst {p : α → Bool} {f : α → α} {rows : List α} {x : α} (hx : x ∈ rows)
    (hp : p x = false) : x ∈ amendFirst p f rows := by
  induction rows with
  | nil => simp at hx
  | cons y rest ih =>
    rcases List.mem_cons.mp hx with rfl | hx
    · simp [amendFirst, hp]
    · rw [amendFirst]
      split
      · exact List.mem_cons_of_mem _ hx
      · exact List.mem_cons_of_mem _ (ih hx)

theorem amendFirst_split {p : α → Bool} {f : α → α} {earlier later : List α} {x : α}
    (hearlier : ∀ y ∈ earlier, p y = false) (hx : p x = true) :
    amendFirst p f (earlier ++ x :: later) = earlier ++ f x :: later := by
  induction earlier with
  | nil => simp [amendFirst, hx]
  | cons y rest ih =>
    obtain ⟨hy, hrest⟩ := List.forall_mem_cons.mp hearlier
    simp [amendFirst, hy, ih hrest]

theorem amendFirst_of_some {p : α → Bool} {f : α → α} {rows : List α} {result : α × List α}
    (h : modifyFirst? p f rows = some result) : amendFirst p f rows = result.2 := by
  obtain ⟨before, old, after, rfl, hfind, _, hresult, hbefore⟩ := modifyFirst?_eq_some h
  rw [hresult, amendFirst_split hbefore (List.find?_some hfind)]

namespace Store

/-- An update that comes to something has found its row. -/
theorem updated_eq_ok {result : Option (α × List α)} {put : List α → Store} {row : α} {s : Store}
    (h : updated result put = .ok (row, s)) :
    ∃ rows, result = some (row, rows) ∧ put rows = s := by
  cases result with
  | none => cases h
  | some found =>
    cases h
    exact ⟨found.2, rfl, rfl⟩

theorem updated_ne_fault {result : Option (α × List α)} {put : List α → Store}
    {fault : ArithmeticFault} : updated result put ≠ .error (.fault fault) := by
  cases result <;> simp [updated]

theorem updateTransaction_of_find {s : Store} {id : Id} {row : Transaction}
    {f : Transaction → Transaction} (h : s.findTransaction id = some row)
    (hf : ∀ x, (f x).id = x.id) :
    ∃ s', s.updateTransaction id f = .ok (f row, s') ∧ s'.findTransaction id = some (f row) := by
  obtain ⟨rows, hm⟩ := modifyFirst?_of_find? h f
  refine ⟨{ s with transactions := rows }, ?_, find?_modifyFirst? hm fun x => by rw [hf]⟩
  rw [updateTransaction, hm]
  rfl

end Store

end RecurringBilling
