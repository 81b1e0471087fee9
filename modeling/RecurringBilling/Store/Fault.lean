import RecurringBilling.Store

/-!
Faults of the store: requests that are refused on purpose, or answered with a given value.
-/

namespace RecurringBilling

inductive FaultEffect where
  | refuse (message : String)
  | count (n : Int)
  | revenue (amount : Decimal)
  | statuses (counts : StatusCounts)
  | usage (amount : Decimal)

/-- A fault meets the requests of one name, or those of them with one key. It lets the first
`skip` of them pass and then strikes so many times, or for ever. -/
structure Fault where
  method : String
  id : Option Id := none
  skip : Nat := 0
  times : Option Nat := none
  effect : FaultEffect

namespace Fault

def meets (f : Fault) (r : Request) : Bool :=
  f.method == r.name && f.id.all fun id => r.key? == some id

/-- The effect of the first fault that strikes a request, and the faults afterwards. -/
def strike (r : Request) : List Fault → Option FaultEffect × List Fault
  | [] => (none, [])
  | f :: rest =>
    if !f.meets r then
      let (effect, rest) := strike r rest
      (effect, f :: rest)
    else if 0 < f.skip then
      let (effect, rest) := strike r rest
      (effect, { f with skip := f.skip - 1 } :: rest)
    else
      match f.times with
      | some 0 =>
        let (effect, rest) := strike r rest
        (effect, f :: rest)
      | some (n + 1) => (some f.effect, { f with times := some n } :: rest)
      | none => (some f.effect, f :: rest)

end Fault

/-- Answers a request under the effect of a fault. An effect that says nothing about the request
leaves the answer as it is. -/
def Store.answerUnder (s : Store) (now : Instant) (effect : FaultEffect) (r : Request) :
    Store.Answer r.Reply :=
  match effect, r with
  | .refuse message, _ => .error (.error (.refused message))
  | .count n, .countSubscriptions => .ok (n, s)
  | .count n, .countActive => .ok (n, s)
  | .count n, .countChurned _ => .ok (n, s)
  | .count n, .countInPeriod .. => .ok (n, s)
  | .count n, .countPendingInvoices => .ok (n, s)
  | .count n, .countOverdueInvoices _ => .ok (n, s)
  | .revenue amount, .totalRevenue => .ok (amount, s)
  | .statuses counts, .countByStatus => .ok (counts, s)
  | .usage amount, .findItem subscriptionId slug =>
    .ok ((s.findItem subscriptionId slug).map fun (item, feature) =>
      ({ item with usage := amount }, feature), s)
  | _, r => s.answer now r

end RecurringBilling
