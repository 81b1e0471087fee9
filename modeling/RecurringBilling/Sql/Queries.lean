import RecurringBilling.Sql.Exchange

/-!
The requests to the storage as conversations with a database.
-/

namespace RecurringBilling.Sql

def Talk.ofMap {α β : Type} (f : α → β) (t : Talk α) : Talk β := f <$> t

/-! Parts of statements -/

def allColumns (t : Table) : List Ref := t.columns.map fun c => ⟨t, c.name⟩

def selectedColumns (t : Table) : List Selected := (allColumns t).map .column

def live (t : Table) (c : Condition) : Condition := .and c (.isNull ⟨t, "deleted_at"⟩)

def keyIs (t : Table) (id : Id) : Condition := .equals ⟨t, "id"⟩ (.id id)

def validTexts : Value := .texts (SubscriptionStatus.valid.map SubscriptionStatus.word)

def insertOf (t : Table) (rows : List Cells) : Insert :=
  { table := t, rows := rows, returning := allColumns t }

/-- The assignments of a definition; what it leaves open is left as it is. -/
def assignmentsOf (row : Cells) : List Assignment :=
  row.filterMap fun (name, v) => match v with
    | .null => none
    | v => some (.set name v)

def updateOf (t : Table) (id : Id) (assignments : List Assignment) : Update :=
  { table := t, assignments := assignments, condition := keyIs t id, returning := allColumns t }

def touched (now : Instant) : Assignment := .set "updated_at" (.instant now)

def selectOf (t : Table) (c : Condition) : Select :=
  { selected := selectedColumns t, source := .table t, condition := c }

def firstOf (s : Select) : Statement := .select { s with firstOnly := true }

def changeOf (column : String) {α : Type} (f : α → Value) : Change α → List Assignment
  | .keep => []
  | .set a => [.set column (f a)]

/-- The assignments of changes, in the order of the columns. -/
def changeAssignments (c : SubscriptionChanges) : List Assignment :=
  changeOf "status" .text c.status ++ changeOf "ends_at" (.ofOption .instant) c.endsAt ++
    changeOf "cancelled_at" (.ofOption .instant) c.cancelledAt ++
    changeOf "cancellation_reason" (.ofOption .text) c.cancellationReason ++
    changeOf "auto_renew" .bool c.autoRenew ++ [touched c.updatedAt]

/-! Readers of result rows -/

def readFeature (r : ResultRow) : Cells.Reading Feature := Feature.ofCells (r.cells .features)

def readPackage (r : ResultRow) : Cells.Reading Package := Package.ofCells (r.cells .packages)

def readSubscription (r : ResultRow) : Cells.Reading Subscription :=
  Subscription.ofCells (r.cells .subscriptions)

def readInvoice (r : ResultRow) : Cells.Reading Invoice := Invoice.ofCells (r.cells .invoices)

def readTransaction (r : ResultRow) : Cells.Reading Transaction :=
  Transaction.ofCells (r.cells .transactions)

def readUsageLog (r : ResultRow) : Cells.Reading UsageLog := UsageLog.ofCells (r.cells .usageLogs)

def readItem (r : ResultRow) : Cells.Reading (SubscriptionItem × Feature) := do
  return (← SubscriptionItem.ofCells (r.cells .subscriptionItems), ← readFeature r)

def readCount (r : ResultRow) : Cells.Reading Int :=
  match r.count with
  | .int n => .ok n
  | _ => .error .unexpectedNull

def readGranted (r : ResultRow) : Cells.Reading GrantedFeature := do
  let grant ← Grant.ofCells (r.cells .packageFeatures)
  return ⟨← readFeature r, grant.value, grant.isAvailable, grant.sortOrder⟩

def readPriced (r : ResultRow) : Cells.Reading PricedSubscription := do
  let s := r.cells .subscriptions
  let p := r.cells .packages
  return {
    subscriptionId := ← s.id "id"
    packageId := ← p.id "id"
    packageName := ← p.text "name"
    status := ← s.text "status"
    trialEndsAt := s.instant? "trial_ends_at"
    createdAt := ← s.instant "created_at"
    price := ← p.decimal "price"
    periodWord := ← p.text "billing_period"
    billingInterval := ← p.int "billing_interval" }

def readPackageInvoice (r : ResultRow) : Cells.Reading PackageInvoice := do
  let i := r.cells .invoices
  let p := r.cells .packages
  return ⟨← i.id "id", ← p.id "id", ← p.text "name", ← i.decimal "amount", ← i.text "status",
    i.instant? "due_date"⟩

def readLifetime (r : ResultRow) : Cells.Reading Lifetime := do
  let s := r.cells .subscriptions
  return ⟨← s.instant "created_at", s.instant? "ends_at"⟩

def readPaid (r : ResultRow) : Cells.Reading PaidInvoice := do
  let i := r.cells .invoices
  return ⟨← i.instant "paid_at", ← i.decimal "amount"⟩

def readStatusCount (r : ResultRow) : Cells.Reading (String × Int) := do
  return (← (r.cells .subscriptions).text "status", ← readCount r)

/-! Features and packages -/

open Talk

/-- The row with a slug, locked until the transaction ends. -/
def lockBySlug (t : Table) (slug : String) : Statement :=
  .select {
    selected := [.column ⟨t, "id"⟩]
    source := .table t
    condition := live t (.equals ⟨t, "slug"⟩ (.text slug))
    firstOnly := true
    forUpdate := true }

/-- Updates the row with the slug of a definition, or inserts one. -/
def upsert {α : Type} (t : Table) (now : Instant) (slug : String) (definition : Cells)
    (read : ResultRow → Cells.Reading α) : Talk α :=
  transaction do
    match ← row? (lockBySlug t slug) fun r => (r.cells t).id "id" with
    | some id => row (.update (updateOf t id (assignmentsOf definition ++ [touched now]))) read
    | none => row (.insert (insertOf t [definition])) read

def bySlug (t : Table) (slug : String) : Statement :=
  firstOf (selectOf t (live t (.equals ⟨t, "slug"⟩ (.text slug))))

def byKey (t : Table) (id : Id) : Statement := firstOf (selectOf t (live t (keyIs t id)))

def activePackages : Statement :=
  .select { selectOf .packages (live .packages (.equals ⟨.packages, "is_active"⟩ (.bool true))) with
    order := [(⟨.packages, "sort_order"⟩, .ascending), (⟨.packages, "created_at"⟩, .ascending)] }

def syncGrant (now : Instant) (row : NewGrant) : Statement :=
  .insert {
    table := .packageFeatures
    rows := [row.cells]
    conflict := some (["package_id", "feature_id"], assignmentsOf row.cells ++ [touched now]) }

def syncFeatures (now : Instant) (packageId : Id) (rows : List NewGrant) : Talk Unit :=
  transaction do
    for row in rows.filter (·.packageId == packageId) do
      let _ ← affected (syncGrant now row)

def grantedFeatures (packageId : Id) : Statement :=
  .select {
    selected := selectedColumns .packageFeatures ++ selectedColumns .features
    source := .join (.table .packageFeatures) (.table .features)
      ⟨.packageFeatures, "feature_id"⟩ ⟨.features, "id"⟩
    condition := live .features (.equals ⟨.packageFeatures, "package_id"⟩ (.id packageId))
    order := [(⟨.packageFeatures, "sort_order"⟩, .ascending),
      (⟨.features, "sort_order"⟩, .ascending)] }

/-! Subscriptions -/

def sub (column : String) : Ref := ⟨.subscriptions, column⟩

def ofSubscriber (s : Subscriber) : Condition :=
  .and (.equals (sub "subscriber_type") (.text s.kind.word))
    (.equals (sub "subscriber_id") (.id s.id))

def statusIs (status : SubscriptionStatus) : Condition :=
  .equals (sub "status") (.text status.word)

def insertItems (subscriptionId : Id) (items : List ItemSeed) : Talk Unit := do
  if !items.isEmpty then
    let _ ← affected (.insert {
      table := .subscriptionItems
      rows := items.map fun seed => (seed.forSubscription subscriptionId).cells })

def insertWithItems (row : NewSubscription) (items : List ItemSeed) : Talk Subscription := do
  let created ← Talk.row (.insert (insertOf .subscriptions [row.cells])) readSubscription
  insertItems created.id items
  return created

def updateSubscription (id : Id) (changes : SubscriptionChanges) : Talk Subscription :=
  row (.update (updateOf .subscriptions id (changeAssignments changes))) readSubscription

def switchPlan (id : Id) (changes : SubscriptionChanges) (row : NewSubscription)
    (items : List ItemSeed) : Talk (Subscription × Subscription) :=
  transaction do
    let old ← updateSubscription id changes
    return (old, ← insertWithItems row items)

def findValid (s : Subscriber) : Statement :=
  firstOf { selectOf .subscriptions
      (live .subscriptions (.and (ofSubscriber s) (.oneOf (sub "status") validTexts))) with
    order := [(sub "starts_at", .descending)] }

def packageOfSubscription : Source :=
  .join (.table .subscriptions) (.table .packages) (sub "package_id") ⟨.packages, "id"⟩

def hasValid (s : Subscriber) (slug : Option String) : Statement :=
  let valid := live .subscriptions (.and (ofSubscriber s) (.oneOf (sub "status") validTexts))
  .select {
    selected := [.column (sub "id")]
    source := packageOfSubscription
    condition := match slug with
      | some slug => .and valid (.equals ⟨.packages, "slug"⟩ (.text slug))
      | none => valid
    firstOnly := true }

def findResumable (s : Subscriber) (now : Instant) : Statement :=
  firstOf { selectOf .subscriptions
      (live .subscriptions (.and (.and (ofSubscriber s) (statusIs .cancelled))
        (.greater (sub "ends_at") (.instant now)))) with
    order := [(sub "cancelled_at", .descending), (sub "updated_at", .descending)] }

def subscriptionsOf (s : Subscriber) : Statement :=
  .select { selectOf .subscriptions (live .subscriptions (ofSubscriber s)) with
    order := [(sub "created_at", .descending)] }

def expiring (start fin : Instant) (autoRenew : Option Bool) : Statement :=
  let ending := live .subscriptions (.and (.and (statusIs .active)
    (.greaterEq (sub "ends_at") (.instant start))) (.less (sub "ends_at") (.instant fin)))
  .select { selectOf .subscriptions (match autoRenew with
      | some b => .and ending (.equals (sub "auto_renew") (.bool b))
      | none => ending) with
    order := [(sub "ends_at", .ascending)] }

def countOf (t : Table) (c : Condition) : Statement :=
  .select { selected := [.countAll], source := .table t, condition := c }

def notDeleted : Condition := .isNull (sub "deleted_at")

def countByStatus : Statement :=
  .select {
    selected := [.column (sub "status"), .countAll]
    source := .table .subscriptions
    condition := notDeleted
    groupBy := some (sub "status") }

def cancelledFrom (since : Instant) : Condition :=
  live .subscriptions (.and (statusIs .cancelled)
    (.greaterEq (sub "cancelled_at") (.instant since)))

def lastingIn (since now : Instant) : Condition :=
  live .subscriptions (.and (.lessEq (sub "created_at") (.instant now))
    (.or (.isNull (sub "ends_at")) (.greaterEq (sub "ends_at") (.instant since))))

def instantsOf (column : String) (c : Condition) : Statement :=
  .select {
    selected := [.column (sub column)]
    source := .table .subscriptions
    condition := c
    order := [(sub column, .ascending)] }

def lifetimes (since now : Instant) : Statement :=
  .select {
    selected := [.column (sub "created_at"), .column (sub "ends_at")]
    source := .table .subscriptions
    condition := lastingIn since now }

def pricedSubscriptions : Statement :=
  .select {
    selected := [sub "id", ⟨.packages, "id"⟩, ⟨.packages, "name"⟩, sub "status",
      sub "trial_ends_at", sub "created_at", ⟨.packages, "price"⟩, ⟨.packages, "billing_period"⟩,
      ⟨.packages, "billing_interval"⟩].map .column
    source := packageOfSubscription
    condition := notDeleted }

/-! Items and the log of use -/

def itm (column : String) : Ref := ⟨.subscriptionItems, column⟩

def featureOfItem : Source :=
  .join (.table .subscriptionItems) (.table .features) (itm "feature_id") ⟨.features, "id"⟩

def itemsWith (c : Condition) : Select :=
  { selected := selectedColumns .subscriptionItems ++ selectedColumns .features
    source := featureOfItem
    condition := live .features c }

def findItem (subscriptionId : Id) (slug : String) : Statement :=
  firstOf (itemsWith (.and (.equals (itm "subscription_id") (.id subscriptionId))
    (.equals ⟨.features, "slug"⟩ (.text slug))))

def listItems (subscriptionId : Id) : Statement :=
  .select { itemsWith (.equals (itm "subscription_id") (.id subscriptionId)) with
    order := [(⟨.features, "sort_order"⟩, .ascending), (⟨.features, "slug"⟩, .ascending)] }

def incrementUsage (now : Instant) (id : Id) (amount : Decimal) (limit : Option Decimal) :
    Statement :=
  .update {
    table := .subscriptionItems
    assignments := [.increase "usage" (.decimal amount), touched now]
    condition := match limit with
      | some limit =>
        .and (keyIs .subscriptionItems id)
          (.sumLessEq (itm "usage") (.decimal amount) (.decimal limit))
      | none => keyIs .subscriptionItems id
    returning := [itm "usage"] }

def resetUsage (now : Instant) (c : Condition) : Statement :=
  .update {
    table := .subscriptionItems
    assignments := [.set "usage" (.decimal 0), touched now]
    condition := c }

def log (column : String) : Ref := ⟨.usageLogs, column⟩

def usageLogs (subscriptionId featureId : Id) (since : Instant) : Statement :=
  .select { selectOf .usageLogs (.and
      (.and (.equals (log "subscription_id") (.id subscriptionId))
        (.equals (log "feature_id") (.id featureId)))
      (.greaterEq (log "created_at") (.instant since))) with
    order := [(log "created_at", .ascending)] }

/-! Invoices and transactions -/

def inv (column : String) : Ref := ⟨.invoices, column⟩

def invoiceStatusIs (status : InvoiceStatus) : Condition :=
  .equals (inv "status") (.text status.word)

def invoicesOf (ids : List Id) : Statement :=
  .select { selectOf .invoices (live .invoices (.oneOf (inv "subscription_id") (.ids ids))) with
    order := [(inv "created_at", .descending)] }

def pendingOf (subscriptionId : Id) : Statement :=
  .select {
    selected := [.column (inv "id")]
    source := .table .invoices
    condition := live .invoices (.and (.equals (inv "subscription_id") (.id subscriptionId))
      (invoiceStatusIs .pending))
    firstOnly := true }

def totalRevenue : Statement :=
  .select {
    selected := [.sum (inv "amount")]
    source := .table .invoices
    condition := live .invoices (invoiceStatusIs .paid)
    firstOnly := true }

def paidSince (since : Instant) : Statement :=
  .select {
    selected := [.column (inv "paid_at"), .column (inv "amount")]
    source := .table .invoices
    condition := live .invoices (.and (invoiceStatusIs .paid)
      (.greaterEq (inv "paid_at") (.instant since)))
    order := [(inv "paid_at", .ascending)] }

def packageInvoices : Statement :=
  .select {
    selected := [inv "id", ⟨.packages, "id"⟩, ⟨.packages, "name"⟩, inv "amount", inv "status",
      inv "due_date"].map .column
    source := .join (.table .invoices) packageOfSubscription (inv "subscription_id") (sub "id")
    condition := .isNull (inv "deleted_at") }

def transactionByKey (id : Id) : Statement :=
  firstOf (selectOf .transactions (keyIs .transactions id))

def transactionsOf (invoiceId : Id) : Statement :=
  .select { selectOf .transactions
      (.equals ⟨.transactions, "invoice_id"⟩ (.id invoiceId)) with
    order := [(⟨.transactions, "created_at"⟩, .descending)] }

/-- The conversation that answers a request. -/
def conversation (now : Instant) : (r : Request) → Talk r.Reply
  | .createFeature new => row (.insert (insertOf .features [new.cells])) readFeature
  | .findFeature id => row? (byKey .features id) readFeature
  | .findFeatureBySlug slug => row? (bySlug .features slug) readFeature
  | .upsertFeature new => upsert .features now new.slug new.cells readFeature
  | .createPackage new => row (.insert (insertOf .packages [new.cells])) readPackage
  | .findPackage id => row? (byKey .packages id) readPackage
  | .findPackageBySlug slug => row? (bySlug .packages slug) readPackage
  | .upsertPackage new => upsert .packages now new.slug new.cells readPackage
  | .listActivePackages => rows activePackages readPackage
  | .syncFeatures packageId new => syncFeatures now packageId new
  | .listFeatures packageId => rows (grantedFeatures packageId) readGranted
  | .createSubscription new items => transaction (insertWithItems new items)
  | .switchPlan id changes new items => switchPlan id changes new items
  | .updateSubscription id changes => updateSubscription id changes
  | .findSubscription id => row? (byKey .subscriptions id) readSubscription
  | .findValidSubscription s => row? (findValid s) readSubscription
  | .hasValidSubscription s slug => ofMap Option.isSome (row? (hasValid s slug) readKey)
  | .findResumable s asOf => row? (findResumable s asOf) readSubscription
  | .listSubscriptions s => rows (subscriptionsOf s) readSubscription
  | .listExpiring date autoRenew =>
    match date.bounds? with
    | some (start, fin) => rows (expiring start fin autoRenew) readSubscription
    | none => throw (.fault .instantAddition)
  | .countSubscriptions => row (countOf .subscriptions notDeleted) readCount
  | .countActive =>
    row (countOf .subscriptions (live .subscriptions (.oneOf (sub "status") validTexts))) readCount
  | .countByStatus => ofMap StatusCounts.ofTexts (rows countByStatus readStatusCount)
  | .countChurned since => row (countOf .subscriptions (cancelledFrom since)) readCount
  | .countInPeriod since fin => row (countOf .subscriptions (lastingIn since fin)) readCount
  | .listCreated since =>
    rows (instantsOf "created_at" (live .subscriptions
      (.greaterEq (sub "created_at") (.instant since))))
      fun r => (r.cells .subscriptions).instant "created_at"
  | .listCancelled since =>
    rows (instantsOf "cancelled_at" (cancelledFrom since))
      fun r => (r.cells .subscriptions).instant "cancelled_at"
  | .listLifetimes since fin => rows (lifetimes since fin) readLifetime
  | .listPricedSubscriptions => rows pricedSubscriptions readPriced
  | .findItem subscriptionId slug => row? (findItem subscriptionId slug) readItem
  | .listItems subscriptionId => rows (listItems subscriptionId) readItem
  | .incrementUsage id amount limit =>
    row? (incrementUsage now id amount limit)
      fun r => (r.cells .subscriptionItems).decimal "usage"
  | .resetUsage id =>
    ofMap (fun _ => ()) (affected (resetUsage now (keyIs .subscriptionItems id)))
  | .resetAllUsage subscriptionId =>
    affected (resetUsage now (.equals (itm "subscription_id") (.id subscriptionId)))
  | .createUsageLog new => row (.insert (insertOf .usageLogs [new.cells])) readUsageLog
  | .listUsageLogs subscriptionId featureId since =>
    rows (usageLogs subscriptionId featureId since) readUsageLog
  | .createInvoice new => row (.insert (insertOf .invoices [new.cells])) readInvoice
  | .findInvoice id => row? (byKey .invoices id) readInvoice
  | .listInvoices ids => if ids.isEmpty then pure [] else rows (invoicesOf ids) readInvoice
  | .hasPendingInvoice subscriptionId =>
    ofMap Option.isSome (row? (pendingOf subscriptionId) readInvoiceKey)
  | .setInvoiceStatus id status =>
    row (.update (updateOf .invoices id [.set "status" (.text status.word), touched now]))
      readInvoice
  | .markInvoicePaid id paidAt =>
    row (.update (updateOf .invoices id [.set "status" (.text InvoiceStatus.paid.word),
      .set "paid_at" (.instant paidAt), touched now])) readInvoice
  | .countPendingInvoices =>
    row (countOf .invoices (live .invoices (invoiceStatusIs .pending))) readCount
  | .countOverdueInvoices before =>
    row (countOf .invoices (live .invoices (.and (invoiceStatusIs .pending)
      (.less (inv "due_date") (.instant before))))) readCount
  | .totalRevenue => row totalRevenue fun r =>
    match r.sum with
    | .decimal d => .ok d
    | _ => .ok 0
  | .listPaid since => rows (paidSince since) readPaid
  | .listPackageInvoices => rows packageInvoices readPackageInvoice
  | .createTransaction new => row (.insert (insertOf .transactions [new.cells])) readTransaction
  | .findTransaction id => row? (transactionByKey id) readTransaction
  | .listTransactions invoiceId => rows (transactionsOf invoiceId) readTransaction
  | .setTransactionStatus id status response =>
    row (.update (updateOf .transactions id
      (.set "status" (.text status.word) :: assignmentsOf
        [("gateway_response", .ofOption .json response)] ++ [touched now]))) readTransaction
  | .recordRefund id amount reason refundedAt =>
    row (.update (updateOf .transactions id [
      .set "status" (.text TransactionStatus.refunded.word),
      .set "refunded_amount" (.decimal amount), .set "refunded_at" (.instant refundedAt),
      .set "refund_reason" (.ofOption .text reason), touched now])) readTransaction
where
  readKey (r : ResultRow) : Cells.Reading Id := (r.cells .subscriptions).id "id"
  readInvoiceKey (r : ResultRow) : Cells.Reading Id := (r.cells .invoices).id "id"

end RecurringBilling.Sql
