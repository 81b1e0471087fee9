import RecurringBilling.BillingPeriod
import RecurringBilling.Feature

/-!
Packages: a price for a billing period, with the features that it grants.
-/

namespace RecurringBilling

/-- A package that is about to be stored. -/
structure NewPackage where
  slug : String
  name : String
  description : Option String
  price : Decimal
  originalPrice : Option Decimal
  currency : String
  periodWord : String
  billingInterval : Int
  trialDays : Int
  isActive : Bool
  isFeatured : Bool
  sortOrder : Int
  metadata : Option Json

structure Package extends NewPackage where
  id : Id
  createdAt : Instant
  updatedAt : Instant
  deletedAt : Option Instant

namespace Package

/-- The billing period, unless the stored word is unknown. -/
def period? (p : Package) : Option BillingPeriod := BillingPeriod.ofWord? p.periodWord

def isLifetime (p : Package) : Bool := p.period? == some .lifetime

def hasTrial (p : Package) : Bool := 0 < p.trialDays

/-- The price in terms of one month; an unknown period counts for nothing. -/
def monthlyPrice (p : Package) : Except ArithmeticFault Decimal :=
  BillingPeriod.monthlyAmountOfWord p.periodWord p.price p.billingInterval

def isLive (p : Package) : Bool := p.deletedAt.isNone

end Package

/-- A grant of a feature by a package that is about to be stored. -/
structure NewGrant where
  packageId : Id
  featureId : Id
  value : Option String
  isAvailable : Bool
  sortOrder : Int

structure Grant extends NewGrant where
  createdAt : Instant
  updatedAt : Instant

/-- A feature with the terms on which a package grants it. -/
structure GrantedFeature where
  feature : Feature
  value : Option String
  isAvailable : Bool
  sortOrder : Int

end RecurringBilling
