import RecurringBilling.BillingEvent

/-!
Where events go: to listeners over a broadcast that keeps the latest of them, and to a list of
dispatchers that each take every event.
-/

namespace RecurringBilling

/-- A broadcast keeps as many events as its capacity, the oldest first. A listener is at the number
of events that had been sent when it took its last one. -/
structure Broadcast where
  capacity : Nat
  sent : Nat := 0
  kept : List BillingEvent := []
  listeners : List (String × Nat) := []

/-- What a listener gets: an event, nothing, or the number of events that it was too late for. -/
inductive Received where
  | event (e : BillingEvent)
  | empty
  | lagged (missed : Nat)

namespace Broadcast

/-- The capacity is at least one and rounded up to a power of two. -/
def ofCapacity (n : Nat) : Broadcast := { capacity := (max n 1).nextPowerOfTwo }

def listenerCount (b : Broadcast) : Nat := b.listeners.length

def drop (b : Broadcast) (name : String) : Broadcast :=
  { b with listeners := b.listeners.filter (·.1 != name) }

/-- Moves a listener, which is added if there is none of that name. -/
def place (b : Broadcast) (name : String) (position : Nat) : Broadcast :=
  { b with listeners := (name, position) :: (b.drop name).listeners }

/-- Listens from now on; an earlier listener of the name is dropped. -/
def subscribe (b : Broadcast) (name : String) : Broadcast := b.place name b.sent

/-- An event that nobody listens to is not kept. -/
def dispatch (b : Broadcast) (e : BillingEvent) : Broadcast :=
  if b.listeners.isEmpty then b
  else
    let kept := b.kept ++ [e]
    { b with sent := b.sent + 1, kept := kept.drop (kept.length - b.capacity) }

/-- How many events had been sent before the oldest that is kept. -/
def forgotten (b : Broadcast) : Nat := b.sent - b.kept.length

/-- The next thing for a listener. One that fell behind first learns how many events it missed and
then goes on from the oldest that is kept. -/
def receive? (b : Broadcast) (name : String) : Option (Received × Broadcast) := do
  let (_, position) ← b.listeners.find? (·.1 == name)
  if position < b.forgotten then
    return (.lagged (b.forgotten - position), b.place name b.forgotten)
  match b.kept[position - b.forgotten]? with
  | some e => return (.event e, b.place name (position + 1))
  | none => return (.empty, b)

end Broadcast

/-- A dispatcher that notes events under a name, or one that writes them to the log. -/
inductive Dispatcher where
  | recorder (name : String)
  | logger
  deriving DecidableEq

/-- What dispatchers did with events, in order. -/
structure Deliveries where
  recorded : List (String × BillingEvent) := []
  logged : List LogRecord := []

namespace Dispatcher

def deliver (e : BillingEvent) (ds : Deliveries) : Dispatcher → Deliveries
  | recorder name => { ds with recorded := ds.recorded ++ [(name, e)] }
  | logger => { ds with logged := ds.logged ++ [e.logRecord] }

/-- Hands each event to every dispatcher in order. -/
def deliverAll (dispatchers : List Dispatcher) (events : List BillingEvent) : Deliveries :=
  events.foldl (fun ds e => dispatchers.foldl (deliver e) ds) {}

end Dispatcher

end RecurringBilling
