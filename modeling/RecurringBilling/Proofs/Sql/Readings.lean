import Mathlib.Tactic.Tauto
import RecurringBilling.Sql.Queries

/-! When a row that comes back can be read: in each of its columns that may not be null there has to
be a value of the column's type. -/

namespace RecurringBilling

/-- Whether the column may hold null. -/
def Column.isOptional (c : Column) : Bool :=
  match c.fallback with
  | .value .null => true
  | _ => false

/-- Whether a value is one of the type. -/
def ColumnType.holds : ColumnType → Value → Bool
  | text, .text _ => true
  | bool, .bool _ => true
  | int, .int _ => true
  | id, .id _ => true
  | instant, .instant _ => true
  | decimal, .decimal _ => true
  | json, .json _ => true
  | _, _ => false

namespace Cells

variable {α β : Type} {c : Cells} {name : String}

theorem exists_bind_iff {r : Reading α} {f : α → Reading β} :
    (∃ b, r >>= f = .ok b) ↔ ∃ a, r = .ok a ∧ ∃ b, f a = .ok b := by
  cases r with
  | ok a => simp [bind, Except.bind]
  | error e => simp [bind, Except.bind]

theorem exists_pure_iff {a : α} : (∃ b, (pure a : Reading α) = .ok b) ↔ True :=
  iff_true_intro ⟨a, rfl⟩

theorem exists_text_iff :
    (∃ s, c.text name = .ok s) ↔ ColumnType.text.holds (c.value name) = true := by
  unfold text
  cases c.value name <;> simp [ColumnType.holds]

theorem exists_bool_iff :
    (∃ b, c.bool name = .ok b) ↔ ColumnType.bool.holds (c.value name) = true := by
  unfold bool
  cases c.value name <;> simp [ColumnType.holds]

theorem exists_int_iff :
    (∃ n, c.int name = .ok n) ↔ ColumnType.int.holds (c.value name) = true := by
  unfold int
  cases c.value name <;> simp [ColumnType.holds]

theorem exists_id_iff :
    (∃ i, c.id name = .ok i) ↔ ColumnType.id.holds (c.value name) = true := by
  unfold id
  cases c.value name <;> simp [ColumnType.holds]

theorem exists_instant_iff :
    (∃ t, c.instant name = .ok t) ↔ ColumnType.instant.holds (c.value name) = true := by
  unfold instant
  cases c.value name <;> simp [ColumnType.holds]

theorem exists_decimal_iff :
    (∃ d, c.decimal name = .ok d) ↔ ColumnType.decimal.holds (c.value name) = true := by
  unfold decimal
  cases c.value name <;> simp [ColumnType.holds]

end Cells

namespace Sql

open Cells

variable {r : ResultRow}

/-- Whether the column can be read from a row: it may be null, or is a value of its type. -/
def Ref.IsReadable (c : Ref) (r : ResultRow) : Prop :=
  ∀ column ∈ c.table.columns, column.name = c.column → column.isOptional = false →
    column.type.holds ((r.cells c.table).value c.column) = true

/-- All columns are readable if those are that may not be null. -/
theorem forall_allColumns_iff (t : Table) : (∀ c ∈ allColumns t, c.IsReadable r) ↔
    ∀ column ∈ t.columns, column.isOptional = false →
      column.type.holds ((r.cells t).value column.name) = true := by
  simp only [allColumns, List.forall_mem_map, Ref.IsReadable]
  constructor
  · exact fun h column hcolumn => h column hcolumn column hcolumn rfl
  · intro h _ _ column hcolumn hname
    exact hname ▸ h column hcolumn

theorem readFeature_iff (r : ResultRow) :
    (∃ f, readFeature r = .ok f) ↔ ∀ c ∈ allColumns .features, c.IsReadable r := by
  rw [forall_allColumns_iff]
  simp only [readFeature, Feature.ofCells, NewFeature.ofCells, exists_bind_iff, exists_pure_iff,
    exists_and_right, and_true, exists_text_iff, exists_bool_iff, exists_int_iff, exists_id_iff,
    exists_instant_iff]
  simp [Table.columns, Table.ownColumns, Table.stamps, Table.key, Table.createdAt,
    Table.deletedAt, Column.isOptional, defaultCreation]
  tauto

theorem readPackage_iff (r : ResultRow) :
    (∃ p, readPackage r = .ok p) ↔ ∀ c ∈ allColumns .packages, c.IsReadable r := by
  rw [forall_allColumns_iff]
  simp only [readPackage, Package.ofCells, NewPackage.ofCells, exists_bind_iff, exists_pure_iff,
    exists_and_right, and_true, exists_text_iff, exists_bool_iff, exists_int_iff, exists_id_iff,
    exists_instant_iff, exists_decimal_iff]
  simp [Table.columns, Table.ownColumns, Table.stamps, Table.key, Table.createdAt,
    Table.deletedAt, Column.isOptional, defaultCreation]
  tauto

theorem readSubscription_iff (r : ResultRow) :
    (∃ s, readSubscription r = .ok s) ↔ ∀ c ∈ allColumns .subscriptions, c.IsReadable r := by
  rw [forall_allColumns_iff]
  simp only [readSubscription, Subscription.ofCells, NewSubscription.ofCells, exists_bind_iff,
    exists_pure_iff, exists_and_right, and_true, exists_text_iff, exists_bool_iff, exists_id_iff,
    exists_instant_iff]
  simp [Table.columns, Table.ownColumns, Table.stamps, Table.key, Table.createdAt,
    Table.deletedAt, Column.isOptional, defaultCreation]
  tauto

/-- The identifier of a row may not be null. -/
theorem isReadable_id_iff {t : Table} (ht : t.columns.head? = some Table.key)
    (hother : ∀ column ∈ t.columns.tail, column.name ≠ "id") :
    (⟨t, "id"⟩ : Ref).IsReadable r ↔ ∃ i, (r.cells t).id "id" = .ok i := by
  obtain ⟨rest, hcolumns⟩ := List.head?_eq_some_iff.mp ht
  rw [exists_id_iff, Ref.IsReadable, hcolumns, List.forall_mem_cons]
  rw [hcolumns] at hother
  constructor
  · exact fun h => h.1 rfl rfl
  · intro h
    exact ⟨fun _ _ => h, fun column hcolumn hname => absurd hname (hother column hcolumn)⟩

end Sql

end RecurringBilling
