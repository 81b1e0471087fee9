import RecurringBilling.Storage

/-!
The store: tables of rows in memory, in the order in which the rows came. A request is answered
from the tables together with the store as it is afterwards; a refused request changes nothing.
-/

namespace RecurringBilling

structure Store where
  features : List Feature := []
  packages : List Package := []
  grants : List Grant := []
  subscriptions : List Subscription := []
  items : List SubscriptionItem := []
  usageLogs : List UsageLog := []
  invoices : List Invoice := []
  transactions : List Transaction := []
  /-- How many rows have been given an identifier. -/
  created : Nat := 0

/-- Why a request is not answered: the storage says no, or arithmetic halts. -/
inductive Refusal where
  | error (e : StorageError)
  | fault (f : ArithmeticFault)

/-- Rows in the order of a key, those of equal keys as they came. -/
def sortedBy {α : Type} (before : α → α → Bool) (rows : List α) : List α :=
  rows.mergeSort fun a b => !before b a

/-- Changes the first row that meets the condition; the changed row and all rows. -/
def modifyFirst? {α : Type} (p : α → Bool) (f : α → α) : List α → Option (α × List α)
  | [] => none
  | row :: rest =>
    if p row then some (f row, f row :: rest)
    else (modifyFirst? p f rest).map fun (changed, rest) => (changed, row :: rest)

namespace Store

abbrev Answer (α : Type) := Except Refusal (α × Store)

def freshId (s : Store) : Id := .ofNat (0xffff000000000000 + s.created + 1)

/-- An update of a row that has to be there. -/
def updated {α : Type} (result : Option (α × List α)) (put : List α → Store) : Answer α :=
  match result with
  | some (row, rows) => .ok (row, put rows)
  | none => .error (.error .recordNotFound)

/-! Features and packages. -/

def createFeature (s : Store) (now : Instant) (row : NewFeature) : Feature × Store :=
  let feature : Feature :=
    { row with id := s.freshId, createdAt := now, updatedAt := now, deletedAt := none }
  (feature, { s with features := s.features ++ [feature], created := s.created + 1 })

/-- Overwrites a row by its definition; a description or metadata left open stays. -/
def redefineFeature (now : Instant) (row : NewFeature) (f : Feature) : Feature :=
  { f with
    toNewFeature := { row with
      description := row.description <|> f.description
      metadata := row.metadata <|> f.metadata }
    updatedAt := now }

def upsertFeature (s : Store) (now : Instant) (row : NewFeature) : Feature × Store :=
  match modifyFirst? (fun f => f.isLive && f.slug == row.slug) (redefineFeature now row)
    s.features with
  | some (feature, features) => (feature, { s with features := features })
  | none => s.createFeature now row

def findFeature (s : Store) (id : Id) : Option Feature :=
  s.features.find? fun f => f.isLive && f.id == id

def findFeatureBySlug (s : Store) (slug : String) : Option Feature :=
  s.features.find? fun f => f.isLive && f.slug == slug

def createPackage (s : Store) (now : Instant) (row : NewPackage) : Package × Store :=
  let package : Package :=
    { row with id := s.freshId, createdAt := now, updatedAt := now, deletedAt := none }
  (package, { s with packages := s.packages ++ [package], created := s.created + 1 })

/-- Overwrites a row by its definition; a description, original price or metadata left open
stays. -/
def redefinePackage (now : Instant) (row : NewPackage) (p : Package) : Package :=
  { p with
    toNewPackage := { row with
      description := row.description <|> p.description
      originalPrice := row.originalPrice <|> p.originalPrice
      metadata := row.metadata <|> p.metadata }
    updatedAt := now }

def upsertPackage (s : Store) (now : Instant) (row : NewPackage) : Package × Store :=
  match modifyFirst? (fun p => p.isLive && p.slug == row.slug) (redefinePackage now row)
    s.packages with
  | some (package, packages) => (package, { s with packages := packages })
  | none => s.createPackage now row

def findPackage (s : Store) (id : Id) : Option Package :=
  s.packages.find? fun p => p.isLive && p.id == id

def findPackageBySlug (s : Store) (slug : String) : Option Package :=
  s.packages.find? fun p => p.isLive && p.slug == slug

def activePackages (s : Store) : List Package :=
  sortedBy (fun a b => a.sortOrder < b.sortOrder ||
      (a.sortOrder == b.sortOrder && a.createdAt < b.createdAt))
    (s.packages.filter fun p => p.isActive && p.isLive)

/-- Stores a grant, or overwrites the one of its package and feature; a value left open stays. -/
def syncGrant (now : Instant) (grants : List Grant) (row : NewGrant) : List Grant :=
  match modifyFirst? (fun g => g.packageId == row.packageId && g.featureId == row.featureId)
    (fun g => { g with
      value := row.value <|> g.value
      isAvailable := row.isAvailable
      sortOrder := row.sortOrder
      updatedAt := now }) grants with
  | some (_, grants) => grants
  | none => grants ++ [{ row with createdAt := now, updatedAt := now }]

def syncFeatures (s : Store) (now : Instant) (packageId : Id) (rows : List NewGrant) : Store :=
  { s with grants := (rows.filter (·.packageId == packageId)).foldl (syncGrant now) s.grants }

def grantedFeature? (s : Store) (g : Grant) : Option GrantedFeature :=
  (s.findFeature g.featureId).map (⟨·, g.value, g.isAvailable, g.sortOrder⟩)

def grantedFeatures (s : Store) (packageId : Id) : List GrantedFeature :=
  sortedBy (fun a b => a.sortOrder < b.sortOrder ||
      (a.sortOrder == b.sortOrder && a.feature.sortOrder < b.feature.sortOrder))
    ((s.grants.filter (·.packageId == packageId)).filterMap s.grantedFeature?)

/-! Subscriptions. -/

def createItem (now : Instant) (s : Store) (row : NewSubscriptionItem) : Store :=
  { s with
    items := s.items ++ [{ row with id := s.freshId, createdAt := now, updatedAt := now }]
    created := s.created + 1 }

def createSubscription (s : Store) (now : Instant) (row : NewSubscription)
    (seeds : List ItemSeed) : Subscription × Store :=
  let subscription : Subscription :=
    { row with id := s.freshId, createdAt := now, updatedAt := now, deletedAt := none }
  let s := { s with
    subscriptions := s.subscriptions ++ [subscription], created := s.created + 1 }
  (subscription, (seeds.map (·.forSubscription subscription.id)).foldl (createItem now) s)

def updateSubscription (s : Store) (id : Id) (changes : SubscriptionChanges) :
    Answer Subscription :=
  updated (modifyFirst? (·.id == id) changes.apply s.subscriptions)
    fun rows => { s with subscriptions := rows }

/-- Updates one subscription and stores another with its items, or does neither. -/
def switchPlan (s : Store) (now : Instant) (id : Id) (changes : SubscriptionChanges)
    (row : NewSubscription) (seeds : List ItemSeed) : Answer (Subscription × Subscription) :=
  match s.updateSubscription id changes with
  | .error refusal => .error refusal
  | .ok (old, s) =>
    let (created, s) := s.createSubscription now row seeds
    .ok ((old, created), s)

def liveSubscriptions (s : Store) : List Subscription := s.subscriptions.filter (·.isLive)

/-- The live subscriptions whose status text gives access. -/
def validSubscriptions (s : Store) : List Subscription :=
  s.liveSubscriptions.filter fun r => SubscriptionStatus.isValidText r.status

def findSubscription (s : Store) (id : Id) : Option Subscription :=
  s.subscriptions.find? fun r => r.isLive && r.id == id

/-- The valid subscription that started last. -/
def findValidSubscription (s : Store) (subscriber : Subscriber) : Option Subscription :=
  (sortedBy (fun a b => b.startsAt < a.startsAt)
    (s.validSubscriptions.filter (·.belongsTo subscriber))).head?

/-- The package of an identifier, deleted or not. -/
def packageRow? (s : Store) (id : Id) : Option Package := s.packages.find? (·.id == id)

def hasValidSubscription (s : Store) (subscriber : Subscriber) (slug : Option String) : Bool :=
  (s.validSubscriptions.filter (·.belongsTo subscriber)).any fun r =>
    (s.packageRow? r.packageId).any fun p => slug.all (p.slug == ·)

def isTextOf (status : SubscriptionStatus) (text : String) : Bool := text == status.word

/-- The later of two optional instants comes first, and none before any. -/
def cancelledBefore (a b : Subscription) : Bool :=
  match a.cancelledAt, b.cancelledAt with
  | none, none => b.updatedAt < a.updatedAt
  | none, some _ => true
  | some _, none => false
  | some x, some y => y < x || (x == y && b.updatedAt < a.updatedAt)

/-- The subscription cancelled last among those that end after an instant. -/
def findResumable (s : Store) (subscriber : Subscriber) (now : Instant) : Option Subscription :=
  (sortedBy cancelledBefore (s.liveSubscriptions.filter fun r =>
    r.belongsTo subscriber && isTextOf .cancelled r.status && r.endsAt.any (now < ·))).head?

def subscriptionsOf (s : Store) (subscriber : Subscriber) : List Subscription :=
  sortedBy (fun a b => b.createdAt < a.createdAt)
    (s.liveSubscriptions.filter (·.belongsTo subscriber))

def endsBefore (a b : Subscription) : Bool :=
  match a.endsAt, b.endsAt with
  | some x, some y => x < y
  | some _, none => true
  | none, _ => false

/-- The active subscriptions that end on a date, the earliest first. -/
def expiring (s : Store) (date : Date) (autoRenew : Option Bool) :
    Except Refusal (List Subscription) :=
  match date.bounds? with
  | none => .error (.fault .instantAddition)
  | some (start, fin) =>
    .ok (sortedBy endsBefore (s.liveSubscriptions.filter fun r =>
      isTextOf .active r.status && r.endsAt.any (fun t => start ≤ t && t < fin) &&
        autoRenew.all (r.autoRenew == ·)))

def churned (s : Store) (since : Instant) : List Subscription :=
  s.liveSubscriptions.filter fun r =>
    isTextOf .cancelled r.status && r.cancelledAt.any (since ≤ ·)

def inPeriod (s : Store) (since now : Instant) : List Subscription :=
  s.liveSubscriptions.filter fun r => r.createdAt ≤ now && r.endsAt.all (since ≤ ·)

def createdSince (s : Store) (since : Instant) : List Instant :=
  sortedBy (fun a b => decide (a < b))
    ((s.liveSubscriptions.map (·.createdAt)).filter (since ≤ ·))

def cancelledSince (s : Store) (since : Instant) : List Instant :=
  sortedBy (fun a b => decide (a < b)) ((s.churned since).filterMap (·.cancelledAt))

def pricedSubscription? (s : Store) (r : Subscription) : Option PricedSubscription :=
  (s.packageRow? r.packageId).map fun p =>
    { subscriptionId := r.id
      packageId := p.id
      packageName := p.name
      status := r.status
      trialEndsAt := r.trialEndsAt
      createdAt := r.createdAt
      price := p.price
      periodWord := p.periodWord
      billingInterval := p.billingInterval }

def pricedSubscriptions (s : Store) : List PricedSubscription :=
  s.liveSubscriptions.filterMap s.pricedSubscription?

/-! Items and the log of use. -/

/-- The items of a subscription with their features, as far as those are live. -/
def itemsWithFeatures (s : Store) (subscriptionId : Id) : List (SubscriptionItem × Feature) :=
  (s.items.filter (·.subscriptionId == subscriptionId)).filterMap fun item =>
    (s.findFeature item.featureId).map (item, ·)

def findItem (s : Store) (subscriptionId : Id) (slug : String) :
    Option (SubscriptionItem × Feature) :=
  (s.itemsWithFeatures subscriptionId).find? fun (_, f) => f.slug == slug

def listItems (s : Store) (subscriptionId : Id) : List (SubscriptionItem × Feature) :=
  sortedBy (fun (_, a) (_, b) => a.sortOrder < b.sortOrder ||
      (a.sortOrder == b.sortOrder && a.slug < b.slug))
    (s.itemsWithFeatures subscriptionId)

def setUsage (now : Instant) (usage : Decimal) (item : SubscriptionItem) : SubscriptionItem :=
  { item with usage := usage, updatedAt := now }

/-- Adds to the use of an item in one step, unless that passes the limit. -/
def incrementUsage (s : Store) (now : Instant) (id : Id) (amount : Decimal)
    (limit : Option Decimal) : Answer (Option Decimal) :=
  match s.items.find? (·.id == id) with
  | none => .ok (none, s)
  | some item =>
    match item.usage.add amount with
    | .error _ => .error (.error .numericOverflow)
    | .ok usage =>
      if limit.any (· < usage) then .ok (none, s)
      else
        match modifyFirst? (·.id == id) (setUsage now usage) s.items with
        | some (_, items) => .ok (some usage, { s with items := items })
        | none => .ok (none, s)

def resetUsage (s : Store) (now : Instant) (id : Id) : Answer Unit :=
  match modifyFirst? (·.id == id) (setUsage now 0) s.items with
  | some (_, items) => .ok ((), { s with items := items })
  | none => .error (.error .recordNotFound)

def resetAllUsage (s : Store) (now : Instant) (subscriptionId : Id) : Nat × Store :=
  ((s.items.filter (·.subscriptionId == subscriptionId)).length,
    { s with items := s.items.map fun item =>
      if item.subscriptionId = subscriptionId then setUsage now 0 item else item })

def createUsageLog (s : Store) (now : Instant) (row : NewUsageLog) : UsageLog × Store :=
  let entry : UsageLog := { row with id := s.freshId, createdAt := now }
  (entry, { s with usageLogs := s.usageLogs ++ [entry], created := s.created + 1 })

def logsSince (s : Store) (subscriptionId featureId : Id) (since : Instant) : List UsageLog :=
  sortedBy (fun a b => a.createdAt < b.createdAt) (s.usageLogs.filter fun l =>
    l.subscriptionId == subscriptionId && l.featureId == featureId && since ≤ l.createdAt)

/-! Invoices and transactions. -/

def createInvoice (s : Store) (now : Instant) (row : NewInvoice) : Invoice × Store :=
  let invoice : Invoice :=
    { row with id := s.freshId, createdAt := now, updatedAt := now, deletedAt := none }
  (invoice, { s with invoices := s.invoices ++ [invoice], created := s.created + 1 })

def liveInvoices (s : Store) : List Invoice := s.invoices.filter (·.isLive)

def findInvoice (s : Store) (id : Id) : Option Invoice :=
  s.invoices.find? fun i => i.isLive && i.id == id

def invoicesOf (s : Store) (subscriptionIds : List Id) : List Invoice :=
  sortedBy (fun a b => b.createdAt < a.createdAt)
    (s.liveInvoices.filter fun i => subscriptionIds.contains i.subscriptionId)

def invoicesWithText (s : Store) (status : InvoiceStatus) : List Invoice :=
  s.liveInvoices.filter (·.status == status.word)

def updateInvoice (s : Store) (id : Id) (f : Invoice → Invoice) : Answer Invoice :=
  updated (modifyFirst? (·.id == id) f s.invoices) fun rows => { s with invoices := rows }

def totalRevenue (s : Store) : Except Refusal Decimal :=
  match Decimal.sum ((s.invoicesWithText .paid).map (·.amount)) with
  | .ok total => .ok total
  | .error _ => .error (.error .numericOverflow)

def paidSince (s : Store) (since : Instant) : List PaidInvoice :=
  sortedBy (fun a b => a.paidAt < b.paidAt) ((s.invoicesWithText .paid).filterMap fun i =>
    match i.paidAt with
    | some t => if since ≤ t then some ⟨t, i.amount⟩ else none
    | none => none)

def packageInvoice? (s : Store) (i : Invoice) : Option PackageInvoice := do
  let subscription ← s.subscriptions.find? (·.id == i.subscriptionId)
  let package ← s.packageRow? subscription.packageId
  return ⟨i.id, package.id, package.name, i.amount, i.status, i.dueDate⟩

def packageInvoices (s : Store) : List PackageInvoice :=
  s.liveInvoices.filterMap s.packageInvoice?

def createTransaction (s : Store) (now : Instant) (row : NewTransaction) : Transaction × Store :=
  let transaction : Transaction :=
    { row with
      id := s.freshId, refundedAmount := none, refundedAt := none, refundReason := none
      createdAt := now, updatedAt := now }
  (transaction, { s with
    transactions := s.transactions ++ [transaction], created := s.created + 1 })

def findTransaction (s : Store) (id : Id) : Option Transaction :=
  s.transactions.find? (·.id == id)

def transactionsOf (s : Store) (invoiceId : Id) : List Transaction :=
  sortedBy (fun a b => b.createdAt < a.createdAt)
    (s.transactions.filter (·.invoiceId == invoiceId))

def updateTransaction (s : Store) (id : Id) (f : Transaction → Transaction) :
    Answer Transaction :=
  updated (modifyFirst? (·.id == id) f s.transactions) fun rows => { s with transactions := rows }

/-- Answers a request at an instant. -/
def answer (s : Store) (now : Instant) : (r : Request) → Answer r.Reply
  | .createFeature row => .ok (s.createFeature now row)
  | .findFeature id => .ok (s.findFeature id, s)
  | .findFeatureBySlug slug => .ok (s.findFeatureBySlug slug, s)
  | .upsertFeature row => .ok (s.upsertFeature now row)
  | .createPackage row => .ok (s.createPackage now row)
  | .findPackage id => .ok (s.findPackage id, s)
  | .findPackageBySlug slug => .ok (s.findPackageBySlug slug, s)
  | .upsertPackage row => .ok (s.upsertPackage now row)
  | .listActivePackages => .ok (s.activePackages, s)
  | .syncFeatures packageId rows => .ok ((), s.syncFeatures now packageId rows)
  | .listFeatures packageId => .ok (s.grantedFeatures packageId, s)
  | .createSubscription row items => .ok (s.createSubscription now row items)
  | .switchPlan id changes row items => s.switchPlan now id changes row items
  | .updateSubscription id changes => s.updateSubscription id changes
  | .findSubscription id => .ok (s.findSubscription id, s)
  | .findValidSubscription subscriber => .ok (s.findValidSubscription subscriber, s)
  | .hasValidSubscription subscriber slug => .ok (s.hasValidSubscription subscriber slug, s)
  | .findResumable subscriber after => .ok (s.findResumable subscriber after, s)
  | .listSubscriptions subscriber => .ok (s.subscriptionsOf subscriber, s)
  | .listExpiring date autoRenew => (s.expiring date autoRenew).map (·, s)
  | .countSubscriptions => .ok ((s.liveSubscriptions.length : Int), s)
  | .countActive => .ok ((s.validSubscriptions.length : Int), s)
  | .countByStatus => .ok (StatusCounts.ofTexts (s.liveSubscriptions.map fun r => (r.status, 1)), s)
  | .countChurned since => .ok (((s.churned since).length : Int), s)
  | .countInPeriod since fin => .ok (((s.inPeriod since fin).length : Int), s)
  | .listCreated since => .ok (s.createdSince since, s)
  | .listCancelled since => .ok (s.cancelledSince since, s)
  | .listLifetimes since fin =>
    .ok ((s.inPeriod since fin).map fun r => ⟨r.createdAt, r.endsAt⟩, s)
  | .listPricedSubscriptions => .ok (s.pricedSubscriptions, s)
  | .findItem subscriptionId slug => .ok (s.findItem subscriptionId slug, s)
  | .listItems subscriptionId => .ok (s.listItems subscriptionId, s)
  | .incrementUsage id amount limit => s.incrementUsage now id amount limit
  | .resetUsage id => s.resetUsage now id
  | .resetAllUsage subscriptionId => .ok (s.resetAllUsage now subscriptionId)
  | .createUsageLog row => .ok (s.createUsageLog now row)
  | .listUsageLogs subscriptionId featureId since =>
    .ok (s.logsSince subscriptionId featureId since, s)
  | .createInvoice row => .ok (s.createInvoice now row)
  | .findInvoice id => .ok (s.findInvoice id, s)
  | .listInvoices ids => .ok (s.invoicesOf ids, s)
  | .hasPendingInvoice subscriptionId =>
    .ok ((s.invoicesWithText .pending).any (·.subscriptionId == subscriptionId), s)
  | .setInvoiceStatus id status =>
    s.updateInvoice id fun i => { i with status := status.word, updatedAt := now }
  | .markInvoicePaid id paidAt =>
    s.updateInvoice id fun i =>
      { i with status := InvoiceStatus.paid.word, paidAt := some paidAt, updatedAt := now }
  | .countPendingInvoices => .ok (((s.invoicesWithText .pending).length : Int), s)
  | .countOverdueInvoices before =>
    .ok ((((s.invoicesWithText .pending).filter fun i => i.dueDate.any (· < before)).length : Int),
      s)
  | .totalRevenue => s.totalRevenue.map (·, s)
  | .listPaid since => .ok (s.paidSince since, s)
  | .listPackageInvoices => .ok (s.packageInvoices, s)
  | .createTransaction row => .ok (s.createTransaction now row)
  | .findTransaction id => .ok (s.findTransaction id, s)
  | .listTransactions invoiceId => .ok (s.transactionsOf invoiceId, s)
  | .setTransactionStatus id status response =>
    s.updateTransaction id fun t =>
      { t with
        status := status.word
        gatewayResponse := response <|> t.gatewayResponse
        updatedAt := now }
  | .recordRefund id amount reason refundedAt =>
    s.updateTransaction id fun t =>
      { t with
        status := TransactionStatus.refunded.word
        refundedAmount := some amount
        refundedAt := some refundedAt
        refundReason := reason
        updatedAt := now }

end Store

end RecurringBilling
