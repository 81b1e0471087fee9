import RecurringBilling.Procedure

/-!
The catalog: definitions of features and packages, and how they are stored. Storing a definition
again updates what has its slug; features granted before and not listed now stay granted.
-/

namespace RecurringBilling

open Procedure

structure FeatureDefinition where
  slug : String
  name : String := slug
  description : Option String := none
  type : FeatureType := .boolean
  isActive : Bool := true
  sortOrder : Int := 0
  metadata : Option Json := none

namespace FeatureDefinition

def target : String := "application::builders::features"

def row (d : FeatureDefinition) : NewFeature :=
  { slug := d.slug
    name := d.name
    description := d.description
    typeWord := d.type.word
    isActive := d.isActive
    sortOrder := d.sortOrder
    metadata := d.metadata }

def create (d : FeatureDefinition) : Procedure Feature := do
  let feature ← request (.createFeature d.row)
  log .info target "features: feature created"
    [("feature_id", .ofId feature.id), ("slug", .shown feature.slug)]
  return feature

def createOrUpdate (d : FeatureDefinition) : Procedure Feature := do
  let feature ← request (.upsertFeature d.row)
  log .info target "features: feature saved"
    [("feature_id", .ofId feature.id), ("slug", .shown feature.slug)]
  return feature

end FeatureDefinition

/-- A feature that a package is to grant. -/
structure Attachment where
  featureId : Id
  value : Option String := none
  isAvailable : Bool := true
  sortOrder : Int := 0

structure PackageDefinition where
  slug : String
  currency : String
  name : String := slug
  description : Option String := none
  price : Decimal := 0
  originalPrice : Option Decimal := none
  period : BillingPeriod := .month
  interval : Int := 1
  trialDays : Int := 0
  isActive : Bool := true
  isFeatured : Bool := false
  sortOrder : Int := 0
  metadata : Option Json := none
  attachments : List Attachment := []

namespace PackageDefinition

def target : String := "application::builders::packages"

/-- Billed every so many periods, at least every one. -/
def billedEvery (d : PackageDefinition) (interval : Int) (period : BillingPeriod) :
    PackageDefinition :=
  { d with period := period, interval := max interval 1 }

def monthly (d : PackageDefinition) : PackageDefinition := d.billedEvery 1 .month
def quarterly (d : PackageDefinition) : PackageDefinition := d.billedEvery 3 .month
def yearly (d : PackageDefinition) : PackageDefinition := d.billedEvery 1 .year
def lifetime (d : PackageDefinition) : PackageDefinition := d.billedEvery 1 .lifetime

def withTrial (d : PackageDefinition) (days : Int) : PackageDefinition :=
  { d with trialDays := max days 0 }

def attach (d : PackageDefinition) (a : Attachment) : PackageDefinition :=
  { d with attachments := d.attachments ++ [a] }

/-- Grants each feature without a value. -/
def attachAll (d : PackageDefinition) (featureIds : List Id) : PackageDefinition :=
  { d with attachments := d.attachments ++ featureIds.map fun id => { featureId := id } }

def row (d : PackageDefinition) : NewPackage :=
  { slug := d.slug
    name := d.name
    description := d.description
    price := d.price
    originalPrice := d.originalPrice
    currency := d.currency
    periodWord := d.period.word
    billingInterval := d.interval
    trialDays := d.trialDays
    isActive := d.isActive
    isFeatured := d.isFeatured
    sortOrder := d.sortOrder
    metadata := d.metadata }

def grants (d : PackageDefinition) (packageId : Id) : List NewGrant :=
  d.attachments.map fun a => ⟨packageId, a.featureId, a.value, a.isAvailable, a.sortOrder⟩

def attachFeatures (d : PackageDefinition) (package : Package) : Procedure Unit := do
  if !d.attachments.isEmpty then
    request (.syncFeatures package.id (d.grants package.id))

def create (d : PackageDefinition) : Procedure Package := do
  let package ← request (.createPackage d.row)
  d.attachFeatures package
  log .info target "packages: package created"
    [("package_id", .ofId package.id), ("slug", .shown package.slug)]
  return package

def createOrUpdate (d : PackageDefinition) : Procedure Package := do
  let package ← request (.upsertPackage d.row)
  d.attachFeatures package
  log .info target "packages: package saved"
    [("package_id", .ofId package.id), ("slug", .shown package.slug)]
  return package

end PackageDefinition

end RecurringBilling
