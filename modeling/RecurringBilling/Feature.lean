import RecurringBilling.Calendar
import RecurringBilling.Id
import RecurringBilling.Json

/-!
Features: what a package can grant. The type decides how the value of a grant is read.
-/

namespace RecurringBilling

inductive FeatureType where
  | boolean
  | limit
  | consumable
  | enum
  deriving DecidableEq

namespace FeatureType

instance : Inhabited FeatureType := ⟨boolean⟩

def word : FeatureType → String
  | boolean => "boolean"
  | limit => "limit"
  | consumable => "consumable"
  | enum => "enum"

def ofWord? : String → Option FeatureType
  | "boolean" => some boolean
  | "limit" => some limit
  | "consumable" => some consumable
  | "enum" => some enum
  | _ => none

/-- Whether use of the feature is counted against its value. -/
def isMetered : FeatureType → Bool
  | limit | consumable => true
  | boolean | enum => false

end FeatureType

/-- A feature that is about to be stored. -/
structure NewFeature where
  slug : String
  name : String
  description : Option String
  typeWord : String
  isActive : Bool
  sortOrder : Int
  metadata : Option Json

structure Feature extends NewFeature where
  id : Id
  createdAt : Instant
  updatedAt : Instant
  deletedAt : Option Instant

namespace Feature

/-- The type, unless the stored word is unknown. -/
def type? (f : Feature) : Option FeatureType := FeatureType.ofWord? f.typeWord

def isOfType (f : Feature) (t : FeatureType) : Bool := f.type? == some t

/-- Whether use of the feature is counted; a feature of unknown type is not. -/
def isMetered (f : Feature) : Bool := f.type?.any FeatureType.isMetered

def isLive (f : Feature) : Bool := f.deletedAt.isNone

end Feature

end RecurringBilling
