import BlogDesk.Http
import BlogDesk.Failure

/-!
# Flights

Actions on one slice run one at a time, in the order they were started. The
action in flight waits for the answer to its latest request; when none is in
flight the first one waiting comes next.
-/

namespace BlogDesk.Store

abbrev Reception := Except CallFailure Response

/-- A request on its way. It resolves once its answer is there and its time has come. -/
structure Exchange where
  /-- How many requests were made before it. -/
  number : Nat
  due : Nat
  reception : Option Reception := none

def Exchange.resolved? (exchange : Exchange) (clock : Nat) : Option Reception :=
  if exchange.due ≤ clock then exchange.reception else none

structure InFlight (σ : Type) where
  ticket : Nat
  stage : σ
  exchange : Exchange

structure Waiting (α : Type) where
  ticket : Nat
  action : α

structure Flight (α σ : Type) where
  running : Option (InFlight σ) := none
  waiting : List (Waiting α) := []

namespace Flight

variable {α σ : Type}

def enqueue (flight : Flight α σ) (ticket : Nat) (action : α) : Flight α σ :=
  { flight with waiting := flight.waiting ++ [⟨ticket, action⟩] }

/-- The flight once the answer to a request has come; answers that nobody waits
for are lost. -/
def receive (flight : Flight α σ) (number : Nat) (reception : Reception) : Flight α σ :=
  match flight.running with
  | some job =>
    if job.exchange.number = number ∧ job.exchange.reception.isNone then
      { flight with
        running := some { job with exchange := { job.exchange with reception := some reception } } }
    else flight
  | none => flight

/-- Whether an action can go on: its exchange has resolved, or its turn has come. -/
def isReady (flight : Flight α σ) (clock : Nat) : Bool :=
  match flight.running with
  | some job => (job.exchange.resolved? clock).isSome
  | none => !flight.waiting.isEmpty

end Flight

end BlogDesk.Store
