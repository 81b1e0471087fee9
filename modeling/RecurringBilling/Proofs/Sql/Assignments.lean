import RecurringBilling.Proofs.Sql.Brackets

/-! What the assignments of a statement do to the columns of a row. The statements that update a
definition leave out the columns for which it has nothing, and the store keeps those as well. -/

namespace RecurringBilling

variable {α : Type} {now : Instant}

/-- A grant that is overwritten by another of the same package and feature. -/
def Grant.resynced (now : Instant) (new : NewGrant) (g : Grant) : Grant :=
  { g with
    value := new.value <|> g.value
    isAvailable := new.isAvailable
    sortOrder := new.sortOrder
    updatedAt := now }

/-- Puts a value into a column that there is. -/
def Cells.put (row : Cells) (column : String) (v : Value) : Cells :=
  row.map fun cell => if cell.1 == column then (cell.1, v) else cell

/-- Puts a value into a column that there is, unless there is none to put. -/
def Cells.putOption (row : Cells) (column : String) (v : Option Value) : Cells :=
  row.map fun cell => if cell.1 == column then (cell.1, v.getD cell.2) else cell

theorem Cells.putOption_none (row : Cells) (column : String) : row.putOption column none = row := by
  simp [putOption]

theorem Value.getD_ofOption {β : Type} (f : β → Value) (new old : Option β) :
    (new.map f).getD (.ofOption f old) = .ofOption f (new.or old) := by
  cases new <;> rfl

/-- The sum of two decimals, if they are decimals and so is their sum. -/
def Value.sum? : Value → Value → Option Value
  | .decimal a, .decimal b => (a.add b).toOption.map .decimal
  | _, _ => none

namespace Sql

def Assignment.apply? (row : Cells) : Assignment → Option Cells
  | .set column v => some (row.put column v)
  | .increase column v => ((row.value column).sum? v).map (row.put column)

/-- A row after an update that meets it. -/
def assigned? (row : Cells) (assignments : List Assignment) : Option Cells :=
  assignments.foldlM Assignment.apply? row

section

variable {row sets : Cells} {column : String} {rest : List Assignment}

theorem assigned?_definition_cons {v : Value} (hv : v ≠ .null) :
    assigned? row (assignmentsOf ((column, v) :: sets) ++ rest) =
      assigned? (row.put column v) (assignmentsOf sets ++ rest) := by
  cases v with
  | null => exact absurd rfl hv
  | _ => rfl

/-- What a definition leaves open is what the row has. -/
theorem assigned?_definition_option {β : Type} {f : β → Value} (hf : ∀ b, f b ≠ .null)
    (v : Option β) :
    assigned? row (assignmentsOf ((column, .ofOption f v) :: sets) ++ rest) =
      assigned? (row.putOption column (v.map f)) (assignmentsOf sets ++ rest) := by
  cases v with
  | none =>
    rw [Option.map_none, Cells.putOption_none]
    rfl
  | some b => exact assigned?_definition_cons (hf b)

theorem assigned?_touched : assigned? row (assignmentsOf [] ++ [touched now]) =
    some (row.put "updated_at" (.instant now)) := rfl

end

theorem assigned?_feature (new : NewFeature) (f : Feature) :
    assigned? f.cells (assignmentsOf new.cells ++ [touched now]) =
      some (Store.redefineFeature now new f).cells := by
  simp only [NewFeature.cells, assigned?_definition_cons, assigned?_definition_option,
    assigned?_touched, ne_eq, reduceCtorEq, not_false_eq_true, implies_true]
  simp [Feature.cells, NewFeature.cells, Cells.put, Cells.putOption, Store.redefineFeature,
    Value.getD_ofOption]

theorem assigned?_package (new : NewPackage) (p : Package) :
    assigned? p.cells (assignmentsOf new.cells ++ [touched now]) =
      some (Store.redefinePackage now new p).cells := by
  simp only [NewPackage.cells, assigned?_definition_cons, assigned?_definition_option,
    assigned?_touched, ne_eq, reduceCtorEq, not_false_eq_true, implies_true]
  simp [Package.cells, NewPackage.cells, Cells.put, Cells.putOption, Store.redefinePackage,
    Value.getD_ofOption]

theorem assigned?_grant {new : NewGrant} {g : Grant} (hpackage : g.packageId = new.packageId)
    (hfeature : g.featureId = new.featureId) :
    assigned? g.cells (assignmentsOf new.cells ++ [touched now]) =
      some (g.resynced now new).cells := by
  simp only [NewGrant.cells, assigned?_definition_cons, assigned?_definition_option,
    assigned?_touched, ne_eq, reduceCtorEq, not_false_eq_true, implies_true]
  simp [Grant.cells, NewGrant.cells, Cells.put, Cells.putOption, Grant.resynced,
    Value.getD_ofOption, hpackage, hfeature]

namespace Talk

theorem sent_commit (x : Exchange) : (commit.outcome x).2.sent = .commit :: x.sent := by
  rw [commit, outcome_control]
  cases x.replies.head?.bind Reply.commitRefusal? <;> rfl

theorem sent_transaction (work : Talk α) {x : Exchange} (hopens : Opens x.replies) :
    ∃ closing, ((transaction work).outcome x).2.sent =
      closing ++ (work.outcome { x with sent := .begin :: x.sent }).2.sent := by
  rw [outcome_transaction hopens]
  obtain ⟨result, worked⟩ := work.outcome { x with sent := .begin :: x.sent }
  cases result with
  | error e => exact ⟨[.rollback], rfl⟩
  | ok a =>
    have hsent := sent_commit worked
    dsimp only
    generalize commit.outcome worked = committed at hsent ⊢
    obtain ⟨result, committed⟩ := committed
    cases result with
    | error e => exact ⟨[.rollback, .commit], congrArg (_ :: ·) hsent⟩
    | ok _ => exact ⟨[.commit], hsent⟩

theorem sent_row (s : Statement) (read : ResultRow → Cells.Reading α) (x : Exchange) :
    ((row s read).outcome x).2.sent = .statement s :: x.sent := by
  obtain ⟨result, hx, _⟩ := outcome_row? s read x
  rw [row, outcome_bind, hx]
  cases result with
  | error e => rfl
  | ok found => cases found <;> rfl

/-- What a definition does to a row with its slug is sent as this update. -/
theorem sent_upsert {t : Table} {slug : String} {definition : Cells}
    {read : ResultRow → Cells.Reading α} {x : Exchange} (hopens : Opens x.replies) {r : ResultRow}
    {rows : List ResultRow} (hreply : answerOf x.replies[0]? = some (r :: rows)) {id : Id}
    (hid : (r.cells t).id "id" = .ok id) :
    ∃ closing, ((upsert t now slug definition read).outcome x).2.sent = closing ++
      .statement (.update (updateOf t id (assignmentsOf definition ++ [touched now]))) ::
        .statement (lockBySlug t slug) :: .begin :: x.sent := by
  obtain ⟨closing, hsent⟩ := sent_transaction _ hopens
  refine ⟨closing, Eq.trans hsent (congrArg (closing ++ ·) ?_)⟩
  obtain ⟨result, hx, hresult⟩ := outcome_row? (lockBySlug t slug)
    (fun r => (r.cells t).id "id") { x with sent := .begin :: x.sent }
  obtain rfl : result = .ok (some id) := by simpa [hreply, hid, Except.map, Except.mapError]
    using hresult
  rw [outcome_bind, hx]
  exact sent_row ..

end Talk

end Sql

end RecurringBilling
