import RecurringBilling.Json.Fields

/-!
The tables of the storage: their columns in order, the types of the columns, and what a column
holds in a row that is given without it.
-/

namespace RecurringBilling

/-- What a column of a row holds, or a statement is given as a parameter. -/
inductive Value where
  | null
  | text (s : String)
  | bool (b : Bool)
  | int (n : Int)
  | id (i : Id)
  | instant (t : Instant)
  | decimal (d : Decimal)
  | json (j : Json)
  | texts (ss : List String)
  | ids (is : List Id)

namespace Value

def ofOption {α : Type} (f : α → Value) : Option α → Value
  | some a => f a
  | none => null

/-- The JSON form of a value; decimals lose trailing zeros. -/
def toJson : Value → Json
  | null => .null
  | text s => .string s
  | bool b => .bool b
  | int n => .int n
  | id i => .string i.text
  | instant t => .string t.text
  | decimal d => .string d.canonicalText
  | json j => j
  | texts ss => .array (ss.map .string)
  | ids is => .array (is.map fun i => .string i.text)

end Value

inductive ColumnType where
  | text
  | bool
  | int
  | id
  | instant
  | decimal
  | json
  deriving DecidableEq

def ColumnType.read? (type : ColumnType) (j : Json) : Option Value :=
  match type with
  | text => j.string?.map .text
  | bool => j.bool?.map .bool
  | int => j.int32?.map .int
  | id => j.id?.map .id
  | instant => j.instant?.map .instant
  | decimal => j.decimal?.map .decimal
  | json => some (.json j)

/-- What an absent column holds: what another holds, or a value, or it may not be absent. -/
inductive Fallback where
  | required
  | value (v : Value)
  | sameAs (column : String)

structure Column where
  name : String
  type : ColumnType
  fallback : Fallback := .value .null

/-- The instant at which a row was made unless it says otherwise: the start of 2024. -/
def defaultCreation : Value := .instant (Instant.midnight ⟨19723, by decide, by decide⟩)

inductive Table where
  | packages
  | features
  | packageFeatures
  | subscriptions
  | subscriptionItems
  | usageLogs
  | invoices
  | transactions
  deriving DecidableEq

namespace Table

def name : Table → String
  | packages => "packages"
  | features => "features"
  | packageFeatures => "package_features"
  | subscriptions => "subscriptions"
  | subscriptionItems => "subscription_items"
  | usageLogs => "usage_logs"
  | invoices => "invoices"
  | transactions => "transactions"

def key : Column := ⟨"id", .id, .required⟩

def createdAt : Column := ⟨"created_at", .instant, .value defaultCreation⟩

/-- When a row was made and changed. -/
def stamps : List Column := [createdAt, ⟨"updated_at", .instant, .sameAs "created_at"⟩]

def deletedAt : Column := { name := "deleted_at", type := .instant }

/-- The columns that a new row of the table brings with it. -/
def ownColumns : Table → List Column
  | packages =>
    [⟨"slug", .text, .required⟩, ⟨"name", .text, .sameAs "slug"⟩,
      { name := "description", type := .text }, ⟨"price", .decimal, .value (.decimal 0)⟩,
      { name := "original_price", type := .decimal }, ⟨"currency", .text, .value (.text "USD")⟩,
      ⟨"billing_period", .text, .value (.text "month")⟩,
      ⟨"billing_interval", .int, .value (.int 1)⟩, ⟨"trial_days", .int, .value (.int 0)⟩,
      ⟨"is_active", .bool, .value (.bool true)⟩, ⟨"is_featured", .bool, .value (.bool false)⟩,
      ⟨"sort_order", .int, .value (.int 0)⟩, { name := "metadata", type := .json }]
  | features =>
    [⟨"slug", .text, .required⟩, ⟨"name", .text, .sameAs "slug"⟩,
      { name := "description", type := .text }, ⟨"type", .text, .value (.text "boolean")⟩,
      ⟨"is_active", .bool, .value (.bool true)⟩, ⟨"sort_order", .int, .value (.int 0)⟩,
      { name := "metadata", type := .json }]
  | packageFeatures =>
    [⟨"package_id", .id, .required⟩, ⟨"feature_id", .id, .required⟩,
      { name := "value", type := .text }, ⟨"is_available", .bool, .value (.bool true)⟩,
      ⟨"sort_order", .int, .value (.int 0)⟩]
  | subscriptions =>
    [⟨"subscriber_type", .text, .value (.text "user")⟩,
      ⟨"subscriber_id", .id, .value (.id (.ofNat 1))⟩,
      ⟨"package_id", .id, .value (.id (.ofNat 0))⟩, ⟨"status", .text, .value (.text "active")⟩,
      ⟨"starts_at", .instant, .sameAs "created_at"⟩, { name := "ends_at", type := .instant },
      { name := "trial_ends_at", type := .instant }, { name := "cancelled_at", type := .instant },
      { name := "cancellation_reason", type := .text },
      ⟨"auto_renew", .bool, .value (.bool true)⟩, { name := "metadata", type := .json }]
  | subscriptionItems =>
    [⟨"subscription_id", .id, .value (.id (.ofNat 0))⟩,
      ⟨"feature_id", .id, .value (.id (.ofNat 0))⟩, { name := "value", type := .text },
      ⟨"usage", .decimal, .value (.decimal 0)⟩]
  | usageLogs =>
    [⟨"subscription_id", .id, .required⟩, ⟨"feature_id", .id, .required⟩,
      ⟨"amount", .decimal, .value (.decimal 0)⟩, { name := "description", type := .text },
      { name := "metadata", type := .json }]
  | invoices =>
    [⟨"subscription_id", .id, .value (.id (.ofNat 0))⟩,
      ⟨"invoice_number", .text, .value (.text "MANUAL")⟩,
      ⟨"amount", .decimal, .value (.decimal 0)⟩, ⟨"currency", .text, .value (.text "USD")⟩,
      ⟨"status", .text, .value (.text "pending")⟩, ⟨"issued_at", .instant, .sameAs "created_at"⟩,
      { name := "due_date", type := .instant }, { name := "paid_at", type := .instant },
      { name := "notes", type := .text }]
  | transactions =>
    [⟨"invoice_id", .id, .value (.id (.ofNat 0))⟩, ⟨"gateway", .text, .value (.text "manual")⟩,
      { name := "transaction_id", type := .text }, ⟨"amount", .decimal, .value (.decimal 0)⟩,
      ⟨"currency", .text, .value (.text "USD")⟩, ⟨"status", .text, .value (.text "pending")⟩,
      { name := "gateway_response", type := .json }, { name := "metadata", type := .json }]

/-- All columns, in the order in which statements name them. -/
def columns (t : Table) : List Column :=
  match t with
  | packages | features | subscriptions | invoices =>
    key :: t.ownColumns ++ stamps ++ [deletedAt]
  | packageFeatures => t.ownColumns ++ stamps
  | subscriptionItems => key :: t.ownColumns ++ stamps
  | usageLogs => key :: t.ownColumns ++ [createdAt]
  | transactions =>
    key :: t.ownColumns ++
      [{ name := "refunded_amount", type := .decimal }, { name := "refunded_at", type := .instant },
        { name := "refund_reason", type := .text }] ++ stamps

end Table

/-- The columns of a row by name. -/
abbrev Cells := List (String × Value)

namespace Cells

def value (c : Cells) (name : String) : Value :=
  ((c.find? (·.1 == name)).map (·.2)).getD .null

def toJson (c : Cells) : Json := .object (c.map fun (name, v) => (name, v.toJson))

end Cells

namespace Table

/-- Which fields of a given row count as absent: those that are null as well, or only those that
are not there. -/
inductive Absence where
  | nullToo
  | missingOnly
  deriving DecidableEq

/-- What a given row holds in a column, by way of at most `hops` other columns. -/
def readColumn? (absence : Absence) (read : ColumnType → Json → Option Value)
    (columns : List Column) (j : Json) : (hops : Nat) → Column → Option Value
  | 0, _ => none
  | hops + 1, c =>
    match j.get? c.name, absence with
    | some .null, .missingOnly => some .null
    | none, _ | some .null, .nullToo =>
      match c.fallback with
      | .required => none
      | .value v => some v
      | .sameAs other => do
        readColumn? absence read columns j hops (← columns.find? (·.name == other))
    | some v, _ => read c.type v

/-- The named columns of a row, read from an object and the fallbacks of the table. -/
def readColumns? (t : Table) (absence : Absence) (read : ColumnType → Json → Option Value)
    (wanted : List Column) (j : Json) : Option Cells :=
  match j with
  | .object _ => wanted.mapM fun c => do
    return (c.name, ← readColumn? absence read t.columns j 3 c)
  | _ => none

/-- A whole row. -/
def read? (t : Table) (j : Json) : Option Cells := t.readColumns? .nullToo ColumnType.read? t.columns j

/-- What a new row of the table brings with it. -/
def readNew? (t : Table) (j : Json) : Option Cells := t.readColumns? .nullToo ColumnType.read? t.ownColumns j

end Table

end RecurringBilling
