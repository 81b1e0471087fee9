import RecurringBilling.Id

/-!
Subscribers: users, teams and organizations.
-/

namespace RecurringBilling

inductive SubscriberKind where
  | user
  | team
  | organization
  deriving DecidableEq

namespace SubscriberKind

def word : SubscriberKind → String
  | user => "user"
  | team => "team"
  | organization => "organization"

def ofWord? : String → Option SubscriberKind
  | "user" => some user
  | "team" => some team
  | "organization" => some organization
  | _ => none

end SubscriberKind

structure Subscriber where
  kind : SubscriberKind
  id : Id
  deriving DecidableEq

namespace Subscriber

def user (id : Id) : Subscriber := ⟨.user, id⟩
def team (id : Id) : Subscriber := ⟨.team, id⟩
def organization (id : Id) : Subscriber := ⟨.organization, id⟩

def text (s : Subscriber) : String := s.kind.word ++ ":" ++ s.id.text

end Subscriber

end RecurringBilling
