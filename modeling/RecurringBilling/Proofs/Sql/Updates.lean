import RecurringBilling.Proofs.Sql.Conditions
import RecurringBilling.Proofs.Sql.Transactions

/-! The update of a subscription as a statement. Its assignments, carried out with the parameters
that are bound, change a row as the changes do, up to the resolution of the database. -/

namespace RecurringBilling

namespace Change

variable {α β : Type}

def map (f : α → β) : Change α → Change β
  | keep => .keep
  | set a => .set (f a)

def value? : Change α → Option α
  | keep => none
  | set a => some a

/-- The column with what it is set to, if it is set. -/
def cells (column : String) : Change Value → Cells
  | keep => []
  | set v => [(column, v)]

end Change

namespace SubscriptionChanges

/-- What becomes of the columns that an update can change. Only the last is always set. -/
def columns (c : SubscriptionChanges) : List (String × Change Value) :=
  [("status", c.status.map .text), ("ends_at", c.endsAt.map (.ofOption .instant)),
    ("cancelled_at", c.cancelledAt.map (.ofOption .instant)),
    ("cancellation_reason", c.cancellationReason.map (.ofOption .text)),
    ("auto_renew", c.autoRenew.map .bool), ("updated_at", .set (.instant c.updatedAt))]

def bindings (c : SubscriptionChanges) : Cells := c.columns.flatMap fun (column, change) =>
  change.cells column

/-- The changes with their instants as the database holds them. -/
def inMicros (c : SubscriptionChanges) : SubscriptionChanges :=
  { c with
    endsAt := c.endsAt.map (·.map Sql.wholeMicros)
    cancelledAt := c.cancelledAt.map (·.map Sql.wholeMicros)
    updatedAt := Sql.wholeMicros c.updatedAt }

/-- Whether the changes set a column to that instant. -/
def Sets (c : SubscriptionChanges) (t : Instant) : Prop :=
  c.endsAt = .set (some t) ∨ c.cancelledAt = .set (some t) ∨ c.updatedAt = t

end SubscriptionChanges

namespace Sql

def setAll (sets : Cells) : List Assignment := sets.map fun cell => .set cell.1 cell.2

def assignmentText (column : String) (n : Nat) : String := quoted column ++ " = $" ++ toString n

/-- The text that ends an update by key, whose parameter has that number. -/
def keyText (t : Table) (n : Nat) : String :=
  " WHERE (" ++ (⟨t, "id"⟩ : Ref).text ++ " = $" ++ toString n ++ ")" ++
    returningText (allColumns t)

/-- The text of an update by key that sets those columns, with its parameters in this order. -/
def updateText (t : Table) (columns : List String) : String :=
  "UPDATE " ++ quoted t.name ++ " SET " ++
    ", ".intercalate (columns.mapIdx fun i column => assignmentText column (i + 1)) ++
    keyText t (columns.length + 1)

variable {t : Table} {id : Id} {sets : Cells}

theorem parametersOf_append (a b : Pieces) :
    parametersOf (a ++ b) = parametersOf a ++ parametersOf b := by
  induction a with
  | nil => rfl
  | cons piece rest ih =>
    cases piece with
    | text s => exact ih
    | parameter v => simpa [parametersOf] using ih

theorem assignmentsPieces_cons (t : Table) (cell next : String × Value) (rest : Cells) :
    assignmentsPieces t (setAll (cell :: next :: rest)) =
      (Assignment.set cell.1 cell.2).pieces t ++
        .text ", " :: assignmentsPieces t (setAll (next :: rest)) := rfl

theorem parametersOf_assignments (t : Table) (sets : Cells) :
    parametersOf (assignmentsPieces t (setAll sets)) = sets.map (·.2) := by
  induction sets with
  | nil => rfl
  | cons cell rest ih =>
    cases rest with
    | nil => rfl
    | cons next rest => exact congrArg (cell.2 :: ·) ih

theorem parameters_update (t : Table) (id : Id) (sets : Cells) :
    (Statement.update (updateOf t id (setAll sets))).parameters =
      sets.map (stored ·.2) ++ [.id id] := by
  simp only [Statement.parameters, Statement.pieces, Update.pieces, updateOf, keyIs,
    Condition.pieces, comparison, List.cons_append, parametersOf, parametersOf_append,
    parametersOf_assignments]
  simp [stored]

theorem textFrom_assignment (n : Nat) (cell : String × Value) (rest : Pieces) :
    textFrom n ((Assignment.set cell.1 cell.2).pieces t ++ rest) =
      assignmentText cell.1 n ++ textFrom (n + 1) rest := by
  have hnumber : " = $" = " = " ++ "$" := rfl
  simp only [Assignment.pieces, List.cons_append, List.nil_append, textFrom, assignmentText,
    String.append_assoc, hnumber]

theorem textFrom_assignments (t : Table) {sets : Cells} (hsets : sets ≠ []) (n : Nat)
    (rest : Pieces) :
    textFrom n (assignmentsPieces t (setAll sets) ++ rest) =
      ", ".intercalate ((sets.map (·.1)).mapIdx fun i column => assignmentText column (i + n)) ++
        textFrom (sets.length + n) rest := by
  induction sets generalizing n with
  | nil => exact absurd rfl hsets
  | cons cell more ih =>
    cases more with
    | nil =>
      show textFrom n ((Assignment.set cell.1 cell.2).pieces t ++ rest) = _
      simp [textFrom_assignment, Nat.add_comm 1]
    | cons next more =>
      rw [assignmentsPieces_cons, List.append_assoc, textFrom_assignment, List.cons_append,
        textFrom, ih (List.cons_ne_nil next more)]
      simp only [List.map_cons, List.mapIdx_cons, String.intercalate_cons_cons, List.length_cons,
        String.append_assoc, Nat.zero_add, Nat.add_assoc, Nat.add_comm 1]

theorem textFrom_key (t : Table) (id : Id) (n : Nat) :
    textFrom n (.text " WHERE " :: ((keyIs t id).pieces ++
      [.text (returningText (allColumns t))])) = keyText t n := by
  have hopening : " WHERE (" = " WHERE " ++ "(" := rfl
  have hnumber : " = $" = " " ++ ("=" ++ (" " ++ "$")) := rfl
  simp only [keyIs, Condition.pieces, comparison, List.cons_append, List.nil_append, textFrom,
    keyText, String.append_assoc, String.append_empty, hopening, hnumber]

theorem text_update (t : Table) (id : Id) {sets : Cells} (hsets : sets ≠ []) :
    (Statement.update (updateOf t id (setAll sets))).text = updateText t (sets.map (·.1)) := by
  simp only [Statement.text, Statement.pieces, Update.pieces, updateOf, List.cons_append,
    List.append_assoc, textFrom]
  rw [textFrom_assignments t hsets, textFrom_key, updateText, List.length_map]
  simp only [String.append_assoc]

theorem setAll_append (sets sets' : Cells) : setAll (sets ++ sets') = setAll sets ++ setAll sets' :=
  List.map_append

theorem changeOf_eq {α : Type} (column : String) (f : α → Value) (change : Change α) :
    changeOf column f change = setAll ((change.map f).cells column) := by
  cases change <;> rfl

theorem changeAssignments_eq (c : SubscriptionChanges) :
    changeAssignments c = setAll c.bindings := by
  simp only [changeAssignments, changeOf_eq, SubscriptionChanges.bindings,
    SubscriptionChanges.columns, List.flatMap_cons, List.flatMap_nil, setAll_append]
  simp only [List.append_assoc]
  rfl

/-- The parts of an update as they are bound: to store a value is to set the stored value. -/
theorem cells_stored {α : Type} {f g : α → Value} (h : ∀ a, stored (f a) = g a) (column : String)
    (change : Change α) :
    ((change.map f).cells column).map (fun cell => (cell.1, stored cell.2)) =
      (change.map g).cells column := by
  cases change with
  | keep => rfl
  | set a => simp [Change.map, Change.cells, h]

theorem cells_map_map {α β : Type} (f : β → Value) (g : α → β) (column : String)
    (change : Change α) :
    ((change.map g).map f).cells column = (change.map fun a => f (g a)).cells column := by
  cases change <;> rfl

/-- The values are bound as the database holds them. -/
theorem bindings_inMicros (c : SubscriptionChanges) :
    c.inMicros.bindings = c.bindings.map fun cell => (cell.1, stored cell.2) := by
  have hinstant : ∀ o : Option Instant,
      stored (.ofOption .instant o) = .ofOption .instant (o.map wholeMicros) := by
    intro o
    cases o <;> rfl
  have htext : ∀ o : Option String, stored (.ofOption .text o) = .ofOption .text o := by
    intro o
    cases o <;> rfl
  simp only [SubscriptionChanges.bindings, SubscriptionChanges.columns,
    SubscriptionChanges.inMicros, List.flatMap_cons, List.flatMap_nil, List.map_append,
    cells_map_map]
  rw [cells_stored (fun _ => rfl) "status" c.status, cells_stored hinstant "ends_at" c.endsAt,
    cells_stored hinstant "cancelled_at" c.cancelledAt,
    cells_stored htext "cancellation_reason" c.cancellationReason,
    cells_stored (fun _ => rfl) "auto_renew" c.autoRenew]
  rfl

theorem assigned?_setAll_append (row sets sets' : Cells) :
    assigned? row (setAll (sets ++ sets')) =
      (assigned? row (setAll sets)).bind fun row => assigned? row (setAll sets') := by
  rw [setAll_append]
  exact List.foldlM_append

/-- A change of one column, assigned to the columns of a row, is the change of one field. -/
theorem assigned?_change {α : Type} (column : String) (f : α → Value) (get : Subscription → α)
    (update : Subscription → α → Subscription) (hsame : ∀ r, update r (get r) = r)
    (hput : ∀ r a, r.cells.put column (f a) = (update r a).cells) (change : Change α)
    (r : Subscription) :
    assigned? r.cells (setAll ((change.map f).cells column)) =
      some (update r (change.apply (get r))).cells := by
  cases change with
  | keep => exact congrArg (fun r => some r.cells) (hsame r).symm
  | set a => exact congrArg some (hput r a)

theorem assigned?_bindings (c : SubscriptionChanges) (r : Subscription) :
    assigned? r.cells (setAll c.bindings) = some (c.apply r).cells := by
  have hstatus := assigned?_change "status" .text (·.status) (fun r a => { r with status := a })
    (fun _ => rfl) (fun _ _ => rfl) c.status
  have hends := assigned?_change "ends_at" (.ofOption .instant) (·.endsAt)
    (fun r a => { r with endsAt := a }) (fun _ => rfl) (fun _ _ => rfl) c.endsAt
  have hcancelled := assigned?_change "cancelled_at" (.ofOption .instant) (·.cancelledAt)
    (fun r a => { r with cancelledAt := a }) (fun _ => rfl) (fun _ _ => rfl) c.cancelledAt
  have hreason := assigned?_change "cancellation_reason" (.ofOption .text) (·.cancellationReason)
    (fun r a => { r with cancellationReason := a }) (fun _ => rfl) (fun _ _ => rfl)
    c.cancellationReason
  have hrenew := assigned?_change "auto_renew" .bool (·.autoRenew)
    (fun r a => { r with autoRenew := a }) (fun _ => rfl) (fun _ _ => rfl) c.autoRenew
  simp only [SubscriptionChanges.bindings, SubscriptionChanges.columns, List.flatMap_cons,
    List.flatMap_nil, assigned?_setAll_append, hstatus, hends, hcancelled, hreason, hrenew,
    Option.bind_some]
  rfl

theorem instant?_of_value {row : Cells} {column : String} {o : Option Instant}
    (h : row.value column = .ofOption .instant o) : row.instant? column = o := by
  unfold Cells.instant? Cells.instant
  rw [h]
  cases o <;> rfl

theorem text?_of_value {row : Cells} {column : String} {o : Option String}
    (h : row.value column = .ofOption .text o) : row.text? column = o := by
  unfold Cells.text? Cells.text
  rw [h]
  cases o <;> rfl

theorem json?_of_value {row : Cells} {column : String} {o : Option Json}
    (h : row.value column = .ofOption .json o) : row.json? column = o := by
  unfold Cells.json?
  rw [h]
  cases o <;> rfl

theorem ofCells_cells (r : Subscription) : Subscription.ofCells r.cells = .ok r := by
  have hread : Subscription.ofCells r.cells = .ok { r with
      endsAt := r.cells.instant? "ends_at"
      trialEndsAt := r.cells.instant? "trial_ends_at"
      cancelledAt := r.cells.instant? "cancelled_at"
      cancellationReason := r.cells.text? "cancellation_reason"
      metadata := r.cells.json? "metadata"
      deletedAt := r.cells.instant? "deleted_at" } := rfl
  rw [hread, instant?_of_value (o := r.endsAt) rfl, instant?_of_value (o := r.trialEndsAt) rfl,
    instant?_of_value (o := r.cancelledAt) rfl, instant?_of_value (o := r.deletedAt) rfl,
    text?_of_value (o := r.cancellationReason) rfl, json?_of_value (o := r.metadata) rfl]

theorem cells_injective {r r' : Subscription} (h : r.cells = r'.cells) : r = r' := by
  have hread := ofCells_cells r
  rw [h, ofCells_cells] at hread
  exact (Except.ok.inj hread).symm

section Lookup

variable {columns : List (String × Change Value)}

theorem lookup_cells (name column : String) (change : Change Value) :
    (change.cells column).lookup name = if name = column then change.value? else none := by
  cases change with
  | keep => simp [Change.cells, Change.value?]
  | set v =>
    by_cases h : name = column
    · simp [Change.cells, Change.value?, h]
    · rw [if_neg h, List.lookup_eq_none_iff]
      simpa [Change.cells] using h

theorem lookup_flatMap_of_notMem {name : String} (h : name ∉ columns.map (·.1)) :
    (columns.flatMap fun (column, change) => change.cells column).lookup name = none := by
  induction columns with
  | nil => rfl
  | cons head rest ih =>
    have hne : name ≠ head.1 := List.ne_of_not_mem_cons h
    rw [List.flatMap_cons, List.lookup_append, lookup_cells, if_neg hne,
      ih (List.not_mem_of_not_mem_cons h), Option.or_none]

/-- Of columns that differ, each one that is set is found with what it is set to. -/
theorem lookup_flatMap (hnodup : (columns.map (·.1)).Nodup) {column : String × Change Value}
    (hcolumn : column ∈ columns) :
    (columns.flatMap fun (column, change) => change.cells column).lookup column.1 =
      column.2.value? := by
  induction columns with
  | nil => cases hcolumn
  | cons head rest ih =>
    obtain ⟨hhead, hnodup⟩ := List.nodup_cons.mp hnodup
    rw [List.flatMap_cons, List.lookup_append, lookup_cells]
    rcases List.mem_cons.mp hcolumn with rfl | hcolumn
    · rw [lookup_flatMap_of_notMem hhead, if_pos rfl, Option.or_none]
    · have hne : column.1 ≠ head.1 := by
        intro heq
        exact hhead (List.mem_map.mpr ⟨column, hcolumn, heq⟩)
      rw [ih hnodup hcolumn, if_neg hne, Option.none_or]

theorem cells_sublist (columns : List (String × Change Value)) :
    ((columns.flatMap fun (column, change) => change.cells column).map (·.1)).Sublist
      (columns.map (·.1)) := by
  induction columns with
  | nil => exact .refl _
  | cons head rest ih =>
    obtain ⟨column, change⟩ := head
    cases change with
    | keep => exact ih.cons column
    | set v => exact ih.cons_cons column

end Lookup

theorem apply_map_iff (change : Change (Option Instant)) (o : Option Instant) :
    (change.map (·.map wholeMicros)).apply o = change.apply o ↔
      ∀ t, change = .set (some t) → wholeMicros t = t := by
  cases change with
  | keep => simp [Change.map, Change.apply]
  | set a => cases a <;> simp [Change.map, Change.apply]

/-- The instants that are set are cut, unless they are ones of whole microseconds. -/
theorem apply_inMicros_iff (c : SubscriptionChanges) (r : Subscription) :
    c.inMicros.apply r = c.apply r ↔ ∀ t, c.Sets t → (1000 : Int) ∣ t.nanos := by
  have hfields : c.inMicros.apply r = c.apply r ↔
      (c.endsAt.map (·.map wholeMicros)).apply r.endsAt = c.endsAt.apply r.endsAt ∧
        (c.cancelledAt.map (·.map wholeMicros)).apply r.cancelledAt =
          c.cancelledAt.apply r.cancelledAt ∧ wholeMicros c.updatedAt = c.updatedAt := by
    simp [SubscriptionChanges.apply, SubscriptionChanges.inMicros, and_assoc]
  rw [hfields, apply_map_iff, apply_map_iff]
  simp only [← wholeMicros_eq_iff, SubscriptionChanges.Sets]
  constructor
  · rintro ⟨hends, hcancelled, hupdated⟩ t (h | h | rfl)
    · exact hends t h
    · exact hcancelled t h
    · exact hupdated
  · intro h
    exact ⟨fun t ht => h t (.inl ht), fun t ht => h t (.inr (.inl ht)), h _ (.inr (.inr rfl))⟩

namespace Talk

theorem sent_bind {α β : Type} (t : Talk α) {f : α → Talk β} (hf : ∀ a, Orderly (f a))
    (x : Exchange) :
    ∃ later, ((t >>= f).outcome x).2.sent = later ++ (t.outcome x).2.sent := by
  rw [outcome_bind]
  obtain ⟨result, x'⟩ := t.outcome x
  cases result with
  | error e => exact ⟨[], rfl⟩
  | ok a =>
    obtain ⟨data, hx, _⟩ := hf a x'
    exact ⟨_, congrArg Exchange.sent hx⟩

end Talk

/-- What the update of a subscription by changes says: it sets those columns, each to the parameter
in its place, in the row that has the key. -/
structure CarriesOut (id : Id) (c : SubscriptionChanges) (s : Statement) (columns : List String) :
    Prop where
  text : s.text = updateText .subscriptions columns
  length : s.parameters.length = columns.length + 1
  key : s.parameters.getLast? = some (.id id)
  picks : ∀ r : Subscription, s.Picks (rowOf .subscriptions r.cells) ↔ r.id = id
  order : columns.Sublist (c.columns.map (·.1))
  binds : ∀ column ∈ c.inMicros.columns,
    (columns.zip s.parameters).lookup column.1 = column.2.value?
  /-- Carried out on a row, it does what the changes do with their instants cut. -/
  cut : ∀ r : Subscription,
    assigned? r.cells (setAll (columns.zip s.parameters)) = some (c.inMicros.apply r).cells
  exact_iff : ∀ r : Subscription,
    assigned? r.cells (setAll (columns.zip s.parameters)) = some (c.apply r).cells ↔
      ∀ t, c.Sets t → (1000 : Int) ∣ t.nanos

theorem zip_parameters (sets : Cells) (last : Value) :
    (sets.map (·.1)).zip (sets.map (stored ·.2) ++ [last]) =
      sets.map fun cell => (cell.1, stored cell.2) := by
  induction sets with
  | nil => rfl
  | cons cell rest ih => simp [ih]

theorem carriesOut_changeAssignments (id : Id) (c : SubscriptionChanges) :
    CarriesOut id c (.update (updateOf .subscriptions id (changeAssignments c)))
      (c.bindings.map (·.1)) := by
  rw [changeAssignments_eq]
  have hparameters := parameters_update .subscriptions id c.bindings
  have hzip : (c.bindings.map (·.1)).zip (Statement.update (updateOf .subscriptions id
      (setAll c.bindings))).parameters = c.inMicros.bindings := by
    rw [hparameters, zip_parameters, bindings_inMicros]
  have hsets : c.bindings ≠ [] := by
    simp [SubscriptionChanges.bindings, SubscriptionChanges.columns, Change.cells]
  exact
    { text := text_update .subscriptions id hsets
      length := by simp [hparameters]
      key := by simp [hparameters]
      picks := by
        intro r
        show (Value.id r.id).Equals (.id id) ↔ r.id = id
        simp [Value.Equals]
      order := cells_sublist c.columns
      binds := by
        intro column hcolumn
        rw [hzip]
        exact lookup_flatMap (by simp [SubscriptionChanges.columns]) hcolumn
      cut := by
        intro r
        rw [hzip, assigned?_bindings]
      exact_iff := by
        intro r
        rw [hzip, assigned?_bindings, ← apply_inMicros_iff c r, Option.some.injEq]
        exact ⟨cells_injective, congrArg Subscription.cells⟩ }

/-- The update that carries changes out is all that a request for them sends, and is what a switch
of plans sends first. -/
theorem changes_carried_out (now : Instant) (id : Id) (c : SubscriptionChanges) :
    ∃ s columns, CarriesOut id c s columns ∧
      (∀ x, ((conversation now (.updateSubscription id c)).outcome x).2.sent =
        .statement s :: x.sent) ∧
      ∀ new items x, Opens x.replies → ∃ later,
        ((conversation now (.switchPlan id c new items)).outcome x).2.sent =
          later ++ .statement s :: .begin :: x.sent := by
  refine ⟨_, _, carriesOut_changeAssignments id c, fun x => Talk.sent_row .., ?_⟩
  intro new items x hopens
  obtain ⟨closing, hclosing⟩ := Talk.sent_transaction (do
    let old ← updateSubscription id c
    return (old, ← insertWithItems new items)) hopens
  obtain ⟨later, hlater⟩ := Talk.sent_bind (updateSubscription id c)
    (fun old => (orderly_insertWithItems new items).bind fun created =>
      Talk.orderly_pure (old, created)) { x with sent := .begin :: x.sent }
  refine ⟨closing ++ later, ?_⟩
  rw [List.append_assoc]
  refine hclosing.trans (congrArg (closing ++ ·) (hlater.trans (congrArg (later ++ ·) ?_)))
  exact Talk.sent_row ..

def startOf2000 : Instant := ⟨946684800000000000, by decide, by decide⟩

def pastStartOf2000 : Instant := ⟨946684800000000001, by decide, by decide⟩

/-- The nanosecond by which the time of an update is past a microsecond does not get into the
row. -/
theorem changes_cut_below_micros : ∃ s : Statement,
    ((conversation pastStartOf2000 (.updateSubscription (.ofNat 1)
        { updatedAt := pastStartOf2000 })).outcome
      { clock := pastStartOf2000, replies := [] }).2.sent = [.statement s] ∧
    s.text = updateText .subscriptions ["updated_at"] ∧
    s.parameters = [.instant startOf2000, .id (.ofNat 1)] ∧
    ∀ r : Subscription, assigned? r.cells (setAll (["updated_at"].zip s.parameters)) =
        some ({ r with updatedAt := startOf2000 } : Subscription).cells ∧
      assigned? r.cells (setAll (["updated_at"].zip s.parameters)) ≠
        some (SubscriptionChanges.apply { updatedAt := pastStartOf2000 } r).cells := by
  refine ⟨_, rfl, (carriesOut_changeAssignments _ _).text, rfl, fun r => ⟨rfl, fun h => ?_⟩⟩
  have hrow : { r with updatedAt := startOf2000 } =
      SubscriptionChanges.apply { updatedAt := pastStartOf2000 } r :=
    cells_injective (Option.some.inj h)
  have hupdated : startOf2000 = pastStartOf2000 := congrArg Subscription.updatedAt hrow
  exact absurd hupdated (by decide)

end Sql

end RecurringBilling
