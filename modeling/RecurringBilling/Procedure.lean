import RecurringBilling.Storage

/-!
Procedures of the billing as data: a procedure is done, fails, halts, or makes one step and goes on
from what the step answers. What a procedure does is fixed by the backend that runs it, so that the
steps of several procedures can also be taken in any order.
-/

namespace RecurringBilling

/-- Why a procedure of the billing failed. -/
inductive BillingError where
  | packageNotFound (slug : String)
  | subscriptionNotFound (id : Id)
  | unknownSubscriber (subscriptionId : Id) (subscriberType : String)
  | packageOfSubscriptionNotFound (subscriptionId packageId : Id)
  | invoiceNotFound (id : Id)
  | transactionNotFound (id : Id)
  | refundExceedsAmount (requested available : Decimal)
  | nonPositiveRefund
  | storage (error : StorageError)
  deriving DecidableEq

namespace BillingError

def message : BillingError → String
  | packageNotFound slug => "package not found: " ++ slug
  | subscriptionNotFound id => "subscription not found: " ++ id.text
  | unknownSubscriber id type => "unknown subscriber type on subscription " ++ id.text ++ ": " ++ type
  | packageOfSubscriptionNotFound subscriptionId packageId =>
    "package " ++ packageId.text ++ " of subscription " ++ subscriptionId.text ++ " not found"
  | invoiceNotFound id => "invoice not found: " ++ id.text
  | transactionNotFound id => "transaction not found: " ++ id.text
  | refundExceedsAmount requested available =>
    "refund of " ++ requested.text ++ " exceeds transaction amount " ++ available.text
  | nonPositiveRefund => "refund amount must be positive"
  | storage error => error.message

def cause? : BillingError → Option String
  | storage error => error.cause?
  | _ => none

def report (e : BillingError) : String := failureReport e.message e.cause?

end BillingError

/-- A procedure. It fails for a reason that a caller can handle, and halts on arithmetic without a
result, which nothing handles. -/
inductive Procedure (α : Type) where
  | done (value : α)
  | fail (error : BillingError)
  | halt (fault : ArithmeticFault)
  | ask (request : Request) (next : Except StorageError request.Reply → Procedure α)
  | note (record : LogRecord) (next : Procedure α)
  | announce (event : BillingEvent) (next : Procedure α)
  | clock (next : Instant → Procedure α)
  | drawNumber (next : String → Procedure α)

namespace Procedure

variable {α β : Type}

def bind : Procedure α → (α → Procedure β) → Procedure β
  | done a, f => f a
  | fail e, _ => fail e
  | halt fault, _ => halt fault
  | ask request next, f => ask request fun reply => (next reply).bind f
  | note record next, f => note record (next.bind f)
  | announce event next, f => announce event (next.bind f)
  | clock next, f => clock fun now => (next now).bind f
  | drawNumber next, f => drawNumber fun number => (next number).bind f

instance : Monad Procedure where
  pure := done
  bind := bind

/-- The procedure with its failure as a result. -/
def attempt : Procedure α → Procedure (Except BillingError α)
  | done a => done (.ok a)
  | fail e => done (.error e)
  | halt fault => halt fault
  | ask request next => ask request fun reply => (next reply).attempt
  | note record next => note record next.attempt
  | announce event next => announce event next.attempt
  | clock next => clock fun now => (next now).attempt
  | drawNumber next => drawNumber fun number => (next number).attempt

def now : Procedure Instant := clock done

def invoiceNumber : Procedure String := drawNumber done

def publish (event : BillingEvent) : Procedure Unit := announce event (done ())

def log (level : LogLevel) (target message : String) (fields : List (String × LogValue)) :
    Procedure Unit :=
  note ⟨level, target, message, fields⟩ (done ())

/-- Asks the storage, and says what went wrong before failing with it. -/
def requestOr (r : Request) (complain : StorageError → Procedure Unit) : Procedure r.Reply :=
  ask r fun
    | .ok reply => done reply
    | .error e => (complain e).bind fun _ => fail (.storage e)

/-- Asks the storage, and fails if that does. -/
def request (r : Request) : Procedure r.Reply :=
  ask r fun
    | .ok reply => done reply
    | .error e => fail (.storage e)

def compute : Except ArithmeticFault α → Procedure α
  | .ok a => done a
  | .error fault => halt fault

end Procedure

/-- How a run of a procedure ended. -/
inductive Outcome (α : Type) where
  | done (value : α)
  | failed (error : BillingError)
  | halted (fault : ArithmeticFault)

/-- What carries out the steps of procedures on a state. -/
structure Backend (σ : Type) where
  answer : (r : Request) → σ → Except ArithmeticFault (Except StorageError r.Reply) × σ
  note : LogRecord → σ → σ
  announce : BillingEvent → σ → σ
  clock : σ → Instant
  drawNumber : σ → String × σ

/-- Runs a procedure to its end. -/
def Procedure.run {α σ : Type} (b : Backend σ) : Procedure α → σ → Outcome α × σ
  | done a, s => (.done a, s)
  | fail e, s => (.failed e, s)
  | halt fault, s => (.halted fault, s)
  | ask r next, s =>
    match b.answer r s with
    | (.ok reply, s) => (next reply).run b s
    | (.error fault, s) => (.halted fault, s)
  | note record next, s => next.run b (b.note record s)
  | announce event next, s => next.run b (b.announce event s)
  | clock next, s => (next (b.clock s)).run b s
  | drawNumber next, s =>
    let (number, s) := b.drawNumber s
    (next number).run b s

end RecurringBilling
