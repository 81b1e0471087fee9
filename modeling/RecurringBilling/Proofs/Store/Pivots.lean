import Mathlib.Data.List.Induction
import RecurringBilling.Proofs.Sql.Assignments
import RecurringBilling.Proofs.Store.Rows

/-! Grants that are stored one after the other. What the last one for a feature leaves open is
taken from the latest before it that does not, and at last from what was stored. -/

namespace RecurringBilling

/-- The package and the feature, which no other grant has both. -/
def Grant.key (g : Grant) : Id × Id := (g.packageId, g.featureId)

/-- The grant as it is but for the instant of its last change. -/
def Grant.unstamped (g : Grant) : Grant := { g with updatedAt := g.createdAt }

namespace NewGrant

def key (row : NewGrant) : Id × Id := (row.packageId, row.featureId)

/-- The latest value that grants give, if any of them gives one. -/
def lastValue? (rows : List NewGrant) : Option String := rows.reverse.findSome? (·.value)

theorem lastValue?_append (rows : List NewGrant) (row : NewGrant) :
    lastValue? (rows ++ [row]) = row.value.or (lastValue? rows) := by
  simp only [lastValue?, List.reverse_append, List.reverse_singleton, List.singleton_append,
    List.findSome?_cons]
  cases row.value <;> rfl

theorem lastValue?_eq_none_iff {rows : List NewGrant} :
    lastValue? rows = none ↔ ∀ row ∈ rows, row.value = none := by
  simp [lastValue?]

end NewGrant

namespace Store

variable {now now' : Instant} {row : NewGrant} {rows : List NewGrant} {grants : List Grant}

def grantOf (grants : List Grant) (key : Id × Id) : Option Grant :=
  grants.find? fun g => g.key = key

def newGrant (now : Instant) (row : NewGrant) : Grant :=
  { row with createdAt := now, updatedAt := now }

/-- What becomes of a grant, or of none, when another of its package and feature is stored. -/
def granted (now : Instant) (old : Option Grant) (row : NewGrant) : Option Grant :=
  some ((old.map (Grant.resynced now row)).getD (newGrant now row))

/-- What becomes of a grant when others are stored. -/
def grantAfter (now : Instant) (rows : List NewGrant) (g : Grant) : Grant :=
  rows.foldl (fun g row => g.resynced now row) g

theorem syncGrant_nil : syncGrant now [] row = [newGrant now row] := rfl

theorem syncGrant_cons (g : Grant) : syncGrant now (g :: grants) row =
    if g.key = row.key then g.resynced now row :: grants else g :: syncGrant now grants row := by
  have hkey : (g.packageId == row.packageId && g.featureId == row.featureId) =
      decide (g.key = row.key) := by
    simp [Grant.key, NewGrant.key, Bool.decide_and, beq_eq_decide]
  rw [syncGrant, modifyFirst?, hkey]
  by_cases h : g.key = row.key
  · simp only [h, decide_true, if_true]
    rfl
  · simp only [h, decide_false, if_false, Bool.false_eq_true]
    unfold syncGrant
    generalize modifyFirst? _ _ grants = found
    cases found <;> rfl

theorem grantOf_syncGrant (key : Id × Id) : grantOf (syncGrant now grants row) key =
    if row.key = key then granted now (grantOf grants key) row else grantOf grants key := by
  induction grants with
  | nil =>
    have hkey : (newGrant now row).key = row.key := rfl
    by_cases h : row.key = key <;> simp [syncGrant_nil, grantOf, granted, hkey, h]
  | cons g rest ih =>
    have hkey : (g.resynced now row).key = g.key := rfl
    rw [syncGrant_cons]
    by_cases hg : g.key = row.key
    · rw [if_pos hg]
      by_cases h : row.key = key
      · simp [grantOf, granted, hkey, hg, h]
      · simp [grantOf, hkey, hg, h]
    · rw [if_neg hg]
      by_cases h : g.key = key
      · have hrow : row.key ≠ key := fun hrow => hg (h.trans hrow.symm)
        simp [grantOf, h, hrow]
      · simpa [grantOf, h] using ih

theorem grantOf_syncGrants (key : Id × Id) : grantOf (rows.foldl (syncGrant now) grants) key =
    (rows.filter (·.key = key)).foldl (granted now) (grantOf grants key) := by
  induction rows generalizing grants with
  | nil => rfl
  | cons row rest ih =>
    rw [List.foldl_cons, ih, grantOf_syncGrant]
    by_cases h : row.key = key <;> simp [h]

/-- Grants of other features and packages stay as they are and where they are. -/
theorem filter_syncGrants {q : Grant → Bool}
    (hq : ∀ g : Grant, g.key ∈ rows.map NewGrant.key → q g = false) :
    (rows.foldl (syncGrant now) grants).filter q = grants.filter q := by
  induction rows generalizing grants with
  | nil => rfl
  | cons row rest ih =>
    rw [List.foldl_cons, ih fun g hg => hq g (List.mem_cons_of_mem _ hg)]
    have hrow : ∀ g : Grant, g.key = row.key → q g = false :=
      fun g hg => hq g (by simp [hg])
    induction grants with
    | nil => simp [syncGrant_nil, hrow (newGrant now row) rfl]
    | cons g rest ih =>
      rw [syncGrant_cons]
      split
      · rename_i hg
        simp [hrow g hg, hrow (g.resynced now row) hg]
      · simp only [List.filter_cons, ih]

theorem value_granted (old : Option Grant) (row : NewGrant) :
    (granted now old row).bind (·.value) = row.value.or (old.bind (·.value)) := by
  cases old with
  | none => simp [granted, newGrant]
  | some g => simp [granted, Grant.resynced]

theorem value_foldl_granted (now : Instant) (rows : List NewGrant) (old : Option Grant) :
    (rows.foldl (granted now) old).bind (·.value) =
      (NewGrant.lastValue? rows).or (old.bind (·.value)) := by
  induction rows using List.reverseRecOn with
  | nil => cases old <;> rfl
  | append_singleton rows row ih =>
    rw [List.foldl_concat, NewGrant.lastValue?_append, value_granted, ih]
    cases row.value <;> rfl

/-- The terms on which a feature is granted in the end, except for the value, are those of the last
grant. -/
theorem foldl_granted_of_getLast? (now : Instant) (old : Option Grant)
    (h : rows.getLast? = some row) :
    ∃ g, rows.foldl (granted now) old = some g ∧ g.isAvailable = row.isAvailable ∧
      g.sortOrder = row.sortOrder := by
  obtain ⟨earlier, rfl⟩ := List.getLast?_eq_some_iff.mp h
  rw [List.foldl_concat]
  cases earlier.foldl (granted now) old with
  | none => exact ⟨newGrant now row, rfl, rfl, rfl⟩
  | some g => exact ⟨g.resynced now row, rfl, rfl, rfl⟩

theorem grantAfter_eq (rows : List NewGrant) (g : Grant) : grantAfter now rows g =
    { g with
      value := (NewGrant.lastValue? rows).or g.value
      isAvailable := (rows.getLast?.map (·.isAvailable)).getD g.isAvailable
      sortOrder := (rows.getLast?.map (·.sortOrder)).getD g.sortOrder
      updatedAt := if rows.isEmpty then g.updatedAt else now } := by
  induction rows using List.reverseRecOn with
  | nil => rfl
  | append_singleton rows row ih =>
    rw [grantAfter] at ih
    rw [grantAfter, List.foldl_concat, ih, NewGrant.lastValue?_append]
    cases h : row.value <;> simp [Grant.resynced, h]

/-- What is stored a second time changes a grant no more. -/
theorem grantAfter_grantAfter (rows : List NewGrant) (g : Grant) :
    (grantAfter now' rows (grantAfter now rows g)).unstamped = (grantAfter now rows g).unstamped := by
  rw [grantAfter_eq, grantAfter_eq]
  cases rows.getLast? <;> cases NewGrant.lastValue? rows <;> rfl

theorem key_grantAfter (rows : List NewGrant) (g : Grant) : (grantAfter now rows g).key = g.key := by
  rw [grantAfter_eq]
  rfl

theorem resynced_newGrant (row : NewGrant) :
    (newGrant now row).resynced now row = newGrant now row := by
  obtain ⟨packageId, featureId, value, isAvailable, sortOrder⟩ := row
  cases value <;> rfl

theorem syncGrants_cons (g : Grant) : rows.foldl (syncGrant now) (g :: grants) =
    grantAfter now (rows.filter (·.key = g.key)) g ::
      (rows.filter fun row => row.key ≠ g.key).foldl (syncGrant now) grants := by
  induction rows generalizing g grants with
  | nil => rfl
  | cons row rest ih =>
    rw [List.foldl_cons, syncGrant_cons]
    by_cases h : g.key = row.key
    · have hkey : (g.resynced now row).key = g.key := rfl
      simp [h, ih, hkey, grantAfter]
    · have h' : ¬ row.key = g.key := fun hrow => h hrow.symm
      simp [h, h', ih]

/-- What is stored of a package that grants nothing yet is a new grant for each feature. -/
theorem syncGrants_nil_cons (row : NewGrant) (rest : List NewGrant) :
    (row :: rest).foldl (syncGrant now) [] =
      grantAfter now ((row :: rest).filter (·.key = row.key)) (newGrant now row) ::
        (rest.filter fun r => r.key ≠ row.key).foldl (syncGrant now) [] := by
  rw [List.foldl_cons, syncGrant_nil, syncGrants_cons]
  have hkey : (newGrant now row).key = row.key := rfl
  simp [hkey, grantAfter, resynced_newGrant]

theorem unstamped_syncGrants_nil (rows : List NewGrant) :
    (rows.foldl (syncGrant now') (rows.foldl (syncGrant now) [])).map Grant.unstamped =
      (rows.foldl (syncGrant now) []).map Grant.unstamped := by
  induction hn : rows.length using Nat.strongRecOn generalizing rows with
  | ind n ih =>
    cases rows with
    | nil => rfl
    | cons row rest =>
      have hkey : (newGrant now row).key = row.key := rfl
      have hshorter : (rest.filter fun r => r.key ≠ row.key).length < n := by
        have hle := List.length_filter_le (fun r => decide (r.key ≠ row.key)) rest
        rw [List.length_cons] at hn
        omega
      have hrest := ih _ hshorter (rest.filter fun r => r.key ≠ row.key) rfl
      rw [syncGrants_nil_cons, syncGrants_cons, key_grantAfter, hkey, List.map_cons, List.map_cons,
        grantAfter_grantAfter]
      simpa using hrest

/-- Grants that are stored a second time are the same but for the instant of the change. -/
theorem unstamped_syncGrants (rows : List NewGrant) (grants : List Grant) :
    (rows.foldl (syncGrant now') (rows.foldl (syncGrant now) grants)).map Grant.unstamped =
      (rows.foldl (syncGrant now) grants).map Grant.unstamped := by
  induction grants generalizing rows with
  | nil => exact unstamped_syncGrants_nil rows
  | cons g rest ih =>
    rw [syncGrants_cons, syncGrants_cons, key_grantAfter, List.map_cons, List.map_cons,
      grantAfter_grantAfter, ih]

end Store

end RecurringBilling
