import Mathlib.Algebra.BigOperators.Group.List.Basic
import Mathlib.Algebra.Ring.Int.Defs
import Mathlib.Data.List.Induction
import RecurringBilling.Reports

/-! Groups of rows. Each key has one group, which holds the rows of that key, so that what is counted
or added up group by group comes to what it is of all rows. -/

namespace RecurringBilling

variable {α κ : Type} {before : κ → κ → Bool} {k k' : κ} {keys : List κ}

/-- Whether no key comes before itself, and of two different keys one comes before the other. -/
structure IsOrder (before : κ → κ → Bool) : Prop where
  irrefl : ∀ k, before k k = false
  trans : ∀ a b c, before a b = true → before b c = true → before a c = true
  total : ∀ a b, before a b = false → before b a = false → a = b

/-- Puts a key in its place, if it is not there. -/
def insertKey (before : κ → κ → Bool) (k : κ) : List κ → List κ
  | [] => [k]
  | k' :: rest =>
    if before k k' then k :: k' :: rest
    else if before k' k then k' :: insertKey before k rest
    else k' :: rest

/-- The keys of rows, in their order. -/
def groupKeys (before : κ → κ → Bool) (key : α → κ) (rows : List α) : List κ :=
  rows.foldl (fun keys row => insertKey before (key row) keys) []

section

variable (hbefore : IsOrder before)

include hbefore

theorem ne_of_before (h : before k k' = true) : k ≠ k' := by
  rintro rfl
  rw [hbefore.irrefl] at h
  cases h

theorem mem_insertKey : k' ∈ insertKey before k keys ↔ k' = k ∨ k' ∈ keys := by
  induction keys with
  | nil => simp [insertKey]
  | cons first rest ih =>
    rw [insertKey]
    split
    · simp
    · split
      · rw [List.mem_cons, ih, List.mem_cons]
        exact or_left_comm
      · rename_i hnot hnot'
        have hsame : k = first := hbefore.total k first (by simpa using hnot) (by simpa using hnot')
        simp [hsame]

theorem pairwise_insertKey (h : keys.Pairwise fun a b => before a b = true) :
    (insertKey before k keys).Pairwise fun a b => before a b = true := by
  induction keys with
  | nil => exact List.pairwise_singleton _ _
  | cons first rest ih =>
    obtain ⟨hfirst, hrest⟩ := List.pairwise_cons.mp h
    rw [insertKey]
    split
    · rename_i hk
      refine List.pairwise_cons.mpr ⟨fun k' hk' => ?_, h⟩
      rcases List.mem_cons.mp hk' with rfl | hk'
      · exact hk
      · exact hbefore.trans _ _ _ hk (hfirst k' hk')
    · split
      · rename_i hk
        refine List.pairwise_cons.mpr ⟨fun k' hk' => ?_, ih hrest⟩
        rcases (mem_insertKey hbefore).mp hk' with rfl | hk'
        · exact hk
        · exact hfirst k' hk'
      · exact h

variable (key : α → κ) (rows : List α)

theorem mem_groupKeys : k ∈ groupKeys before key rows ↔ ∃ row ∈ rows, key row = k := by
  induction rows using List.reverseRecOn with
  | nil => simp [groupKeys]
  | append_singleton rows row ih =>
    rw [groupKeys, List.foldl_concat, mem_insertKey hbefore]
    rw [groupKeys] at ih
    rw [ih]
    simp only [List.mem_append, List.mem_singleton, or_and_right, exists_or, exists_eq_left]
    exact ⟨fun h => h.symm.imp_right Eq.symm, fun h => h.symm.imp_left Eq.symm⟩

theorem pairwise_groupKeys :
    (groupKeys before key rows).Pairwise fun a b => before a b = true := by
  induction rows using List.reverseRecOn with
  | nil => exact List.Pairwise.nil
  | append_singleton rows row ih =>
    rw [groupKeys, List.foldl_concat]
    exact pairwise_insertKey hbefore ih

theorem nodup_groupKeys : (groupKeys before key rows).Nodup :=
  (pairwise_groupKeys hbefore key rows).imp (ne_of_before hbefore)

end

section

variable [DecidableEq κ] {key : α → κ} {rows : List α} {row : α}

/-- The group of a key. -/
def groupOf (key : α → κ) (rows : List α) (k : κ) : κ × List α := (k, rows.filter (key · = k))

theorem groupOf_concat_self :
    groupOf key (rows ++ [row]) (key row) = (key row, rows.filter (key · = key row) ++ [row]) := by
  simp [groupOf]

theorem map_groupOf_concat (h : ∀ k ∈ keys, key row ≠ k) :
    keys.map (groupOf key (rows ++ [row])) = keys.map (groupOf key rows) :=
  List.map_congr_left fun k hk => by simp [groupOf, h k hk]

variable (hbefore : IsOrder before)

include hbefore

theorem insertRow_groupOf (hkeys : keys.Pairwise fun a b => before a b = true)
    (hnew : key row ∉ keys → ∀ r ∈ rows, key r ≠ key row) :
    insertRow before (key row) row (keys.map (groupOf key rows)) =
      (insertKey before (key row) keys).map (groupOf key (rows ++ [row])) := by
  have hnone : key row ∉ keys → rows.filter (key · = key row) = [] := fun hnot =>
    List.filter_eq_nil_iff.mpr fun r hr => by simpa using hnew hnot r hr
  induction keys with
  | nil =>
    rw [insertKey, List.map_singleton, groupOf_concat_self, hnone (by simp)]
    rfl
  | cons first rest ih =>
    obtain ⟨hfirst, hrest⟩ := List.pairwise_cons.mp hkeys
    rw [List.map_cons, groupOf, insertRow, insertKey]
    split
    · rename_i hk
      have hne : ∀ k ∈ first :: rest, key row ≠ k := by
        intro k hmem
        rcases List.mem_cons.mp hmem with rfl | hmem
        · exact ne_of_before hbefore hk
        · exact ne_of_before hbefore (hbefore.trans _ _ _ hk (hfirst k hmem))
      rw [List.map_cons, groupOf_concat_self, hnone fun hmem => hne _ hmem rfl,
        map_groupOf_concat hne]
      rfl
    · split
      · rename_i hk
        have hne : first ≠ key row := ne_of_before hbefore hk
        have hnot : key row ∉ rest → key row ∉ first :: rest := by
          simpa using fun h => ⟨hne.symm, h⟩
        have hhead : groupOf key (rows ++ [row]) first = groupOf key rows first := by
          simp [groupOf, hne.symm]
        rw [ih hrest (fun h => hnew (hnot h)) fun h => hnone (hnot h), List.map_cons, hhead]
        rfl
      · rename_i hnot hnot'
        have hsame : key row = first :=
          hbefore.total _ _ (by simpa using hnot) (by simpa using hnot')
        subst hsame
        rw [List.map_cons, groupOf_concat_self,
          map_groupOf_concat fun k hk => ne_of_before hbefore (hfirst k hk)]

theorem groupBy_eq (key : α → κ) (rows : List α) :
    groupBy before key rows = (groupKeys before key rows).map (groupOf key rows) := by
  induction rows using List.reverseRecOn with
  | nil => rfl
  | append_singleton rows row ih =>
    rw [groupBy] at ih
    rw [groupBy, groupKeys, List.foldl_concat, List.foldl_concat, ih]
    refine insertRow_groupOf hbefore (pairwise_groupKeys hbefore key rows) fun hnot r hr heq => ?_
    exact hnot ((mem_groupKeys hbefore key rows).mpr ⟨r, hr, heq⟩)

end

section

variable {M : Type} [AddCommMonoid M] [DecidableEq κ] {key : α → κ} {rows : List α}

theorem sum_map_ite (a : M) (hkeys : keys.Nodup) (hmem : k ∈ keys) :
    (keys.map fun k' => if k = k' then a else 0).sum = a := by
  induction keys with
  | nil => simp at hmem
  | cons first rest ih =>
    obtain ⟨hfirst, hrest⟩ := List.nodup_cons.mp hkeys
    rw [List.map_cons, List.sum_cons]
    by_cases h : k = first
    · subst h
      have hnone : rest.map (fun k' => if k = k' then a else 0) = rest.map fun _ => 0 :=
        List.map_congr_left fun k' hk' => if_neg fun heq : k = k' => hfirst (heq ▸ hk')
      simp [hnone]
    · have hmem' : k ∈ rest := (List.mem_cons.mp hmem).resolve_left h
      rw [if_neg h, zero_add, ih hrest hmem']

/-- What is added up key by key is what is added up of all rows. -/
theorem sum_map_filter (amount : α → M) (hkeys : keys.Nodup)
    (hmem : ∀ row ∈ rows, key row ∈ keys) :
    (keys.map fun k => ((rows.filter (key · = k)).map amount).sum).sum =
      (rows.map amount).sum := by
  induction rows with
  | nil => simp
  | cons row rest ih =>
    obtain ⟨hrow, hrest⟩ := List.forall_mem_cons.mp hmem
    have hgroup : ∀ k, (((row :: rest).filter (key · = k)).map amount).sum =
        (if key row = k then amount row else 0) +
          ((rest.filter (key · = k)).map amount).sum := by
      intro k
      by_cases h : key row = k <;> simp [h]
    simp only [hgroup, List.sum_map_add, ih hrest, sum_map_ite (amount row) hkeys hrow,
      List.map_cons, List.sum_cons]

theorem length_filter_eq_sum (p : α → Bool) (rows : List α) :
    ((rows.filter p).length : Int) = (rows.map fun row => if p row then 1 else 0).sum := by
  induction rows with
  | nil => rfl
  | cons row rest ih => cases h : p row <;> simp [h, ih, Int.add_comm]

theorem filter_eq_self_or_nil (h : ∀ row ∈ rows, key row = k) (k' : κ) :
    rows.filter (key · = k') = rows ∨ rows.filter (key · = k') = [] := by
  by_cases hk : k = k'
  · exact .inl (List.filter_eq_self.mpr fun row hrow => by simp [h row hrow, hk])
  · exact .inr (List.filter_eq_nil_iff.mpr fun row hrow => by simp [h row hrow, hk])

/-- What is counted key by key is what is counted of all rows. -/
theorem sum_length_filter (p : α → Bool) (hkeys : keys.Nodup)
    (hmem : ∀ row ∈ rows, key row ∈ keys) :
    (keys.map fun k => (((rows.filter (key · = k)).filter p).length : Int)).sum =
      ((rows.filter p).length : Int) := by
  simp only [length_filter_eq_sum p]
  exact sum_map_filter _ hkeys hmem

end

theorem isOrder_text : IsOrder fun a b : String => decide (a < b) where
  irrefl k := decide_eq_false (String.lt_irrefl k)
  trans _ _ _ hab hbc :=
    decide_eq_true (String.lt_trans (of_decide_eq_true hab) (of_decide_eq_true hbc))
  total _ _ hab hba := String.le_antisymm (String.not_lt.mp (of_decide_eq_false hba))
    (String.not_lt.mp (of_decide_eq_false hab))

theorem isOrder_date : IsOrder fun a b : Date => decide (a < b) where
  irrefl d := decide_eq_false (Int.lt_irrefl d.day)
  trans _ _ _ hab hbc :=
    decide_eq_true (Int.lt_trans (of_decide_eq_true hab) (of_decide_eq_true hbc))
  total a b hab hba := by
    obtain ⟨day, _, _⟩ := a
    obtain ⟨day', _, _⟩ := b
    obtain rfl : day = day' :=
      Int.le_antisymm (Int.not_lt.mp (of_decide_eq_false hba))
        (Int.not_lt.mp (of_decide_eq_false hab))
    rfl

namespace Reports

theorem packageBefore_iff {a b : String × Id} :
    packageBefore a b = true ↔ a.1 < b.1 ∨ a.1 = b.1 ∧ a.2.value < b.2.value := by
  have hid : a.2 < b.2 ↔ a.2.value < b.2.value := Iff.rfl
  simp [packageBefore, hid]

theorem isOrder_packageBefore : IsOrder packageBefore where
  irrefl k := by
    rw [← Bool.not_eq_true, packageBefore_iff]
    rintro (h | ⟨_, h⟩)
    · exact String.lt_irrefl _ h
    · exact Nat.lt_irrefl _ h
  trans a b c hab hbc := by
    rw [packageBefore_iff] at *
    rcases hab with hab | ⟨hab, hab'⟩ <;> rcases hbc with hbc | ⟨hbc, hbc'⟩
    · exact .inl (String.lt_trans hab hbc)
    · exact .inl (hbc ▸ hab)
    · exact .inl (hab ▸ hbc)
    · exact .inr ⟨hab.trans hbc, Nat.lt_trans hab' hbc'⟩
  total a b hab hba := by
    rw [← Bool.not_eq_true, packageBefore_iff, not_or, not_and] at hab hba
    have hname : a.1 = b.1 :=
      String.le_antisymm (String.not_lt.mp hba.1) (String.not_lt.mp hab.1)
    have hab' := hab.2 hname
    have hba' := hba.2 hname.symm
    obtain ⟨name, ⟨value, _⟩⟩ := a
    obtain ⟨name', ⟨value', _⟩⟩ := b
    obtain rfl : name = name' := hname
    obtain rfl : value = value' := by
      dsimp only at hab' hba'
      omega
    rfl

end Reports

end RecurringBilling
