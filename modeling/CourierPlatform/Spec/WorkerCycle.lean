import CourierPlatform.Spec.Schedules

/-! One cycle of the worker, from the answer to its query on: on its own, and among other traffic with
any failing operations. -/
namespace CourierPlatform
open Js ReconciliationWorker

inductive DispatchOutcome where
  | unsupported
  | booked (adapter : Adapter) (reply : NormalizedCreateOrderResponse)
  | refused (adapter : Adapter) (error : Thrown)

namespace DispatchOutcome

def isBooked : DispatchOutcome → Bool
  | booked _ _ => true
  | _ => false

def Of (env : Env) (order : Order) : DispatchOutcome → Prop
  | unsupported => env.registry.has env.js order.courierPartner = false
  | booked adapter _ => env.registry.get env.js order.courierPartner = .ok adapter
  | refused adapter _ => env.registry.get env.js order.courierPartner = .ok adapter

def calls (order : Order) : DispatchOutcome → List CourierCall
  | unsupported => []
  | booked adapter reply => [.createShipment adapter order.rawRequestPayload (.ok reply)]
  | refused adapter error => [.createShipment adapter order.rawRequestPayload (.error error)]

/-- The row afterwards. A reply that carries no raw response leaves the column as it was. -/
def row (env : Env) (order : Order) (updatedAt : Int) : DispatchOutcome → Order
  | unsupported => { order with
      status := .failed
      failureReason := some ("Unsupported courier partner: " ++ order.courierPartner)
      retryCount := order.retryCount + 1
      updatedAt }
  | booked _ reply => { order with
      courierOrderId := some reply.courierOrderId
      awbNumber := some reply.awbNumber
      status := .created
      rawResponsePayload :=
        match reply.rawResponse with
        | some raw => jsonColumn raw
        | none => order.rawResponsePayload
      failureReason := none
      retryCount := order.retryCount + 1
      updatedAt }
  | refused _ error => { order with
      status := if (order.retryCount + 1 : Nat) ≥ env.maxRetryAttempts then .failed else .pendingDispatch
      failureReason := some ("Reconciliation error: " ++ error.message)
      retryCount := order.retryCount + 1
      updatedAt }

def events (env : Env) (order : Order) (now : Int) : DispatchOutcome → List TrackingEvent
  | booked _ reply => [{
      orderId := order.orderId
      awbNumber := reply.awbNumber
      status := .created
      activity := "Shipment recovered and booked by Reconciliation Worker (" ++
        env.js.toUpperCase order.courierPartner ++ ")"
      location := some (if order.senderDetails.city = "" then "Origin Hub"
        else order.senderDetails.city)
      eventTimestamp := now
      rawPayload := reply.rawResponse.bind jsonColumn }]
  | unsupported => []
  | refused _ _ => []

end DispatchOutcome

/-- What a cycle has made of the world `w`, where these attempts are all that it has done. -/
structure World.Cycled (env : Env) (w : World) (attempts : List (Order × DispatchOutcome)) (t : World) :
    Prop where
  returned : ∀ attempt ∈ attempts, w.findOne attempt.1.orderId = some attempt.1
  registered : ∀ attempt ∈ attempts, attempt.2.Of env attempt.1
  calls : t.courierCalls = w.courierCalls ++ attempts.flatMap fun attempt => attempt.2.calls attempt.1
  rows : ∀ attempt ∈ attempts, ∃ updatedAt,
    t.findOne attempt.1.orderId = some (attempt.2.row env attempt.1 updatedAt)
  others : ∀ x, x ∉ attempts.map (·.1.orderId) → t.findOne x = w.findOne x
  events : ∃ added, t.events = w.events ++ added ∧
    (∀ event ∈ added, event.orderId ∈ attempts.map (·.1.orderId)) ∧
    ∀ attempt ∈ attempts, ∃ now, added.filter (·.orderId = attempt.1.orderId) =
      attempt.2.events env attempt.1 now
  batches : t.batches = w.batches

namespace State

def cycleAlone (_ : State) : Label → Bool
  | .settle _ (.dbError _) => false
  | .settle _ _ => true
  | .tick _ => true
  | _ => false

def noteSettled (_ : State) (l : Label) (_ : State) (settled : Nat) : Nat :=
  match l with
  | .settle _ _ => settled + 1
  | _ => settled

/-- What is promised of a cycle whose query has returned these rows. -/
structure CycleKept (env : Env) (w : World) (orderIds : List String) (t : State) : Prop where
  unrejected : ∀ error, t.tasks[0]? ≠ some (.reconcile (.rejected error))
  /-- Until the cycle has returned, an operation of it can settle. -/
  live : (∃ count, t.tasks[0]? = some (.reconcile (.resolved count))) ∨
    ∃ a u, t.cycleAlone (.settle 0 a) = true ∧ (platform env).next t (.settle 0 a) = some u
  returned : ∀ count, t.tasks[0]? = some (.reconcile (.resolved count)) →
    ∃ attempts, attempts.map (·.1.orderId) = orderIds ∧ w.Cycled env attempts t.world ∧
      count = attempts.countP (·.2.isBooked) ∧
      count = orderIds.countP fun x => (t.world.findOne x).any (·.status = .created)

end State

/-! ## Attempts among failures -/

def Reconcile.current? : Reconcile → Option Order
  | updateUnsupported order _ _ _ => some order
  | createShipment order _ _ _ _ => some order
  | updateCreated order _ _ _ _ => some order
  | createEvent order _ _ _ _ => some order
  | updateCaught order _ _ _ _ => some order
  | _ => none

def Reconcile.rest : Reconcile → List Order
  | updateUnsupported _ _ rest _ => rest
  | createShipment _ _ _ rest _ => rest
  | updateCreated _ _ _ rest _ => rest
  | createEvent _ _ _ rest _ => rest
  | updateCaught _ _ _ rest _ => rest
  | _ => []

/-- The update of the `catch` branch throws while rows are left. -/
def Reconcile.starves : Reconcile → Answer → Bool
  | updateCaught _ _ _ rest _, .dbError _ => !rest.isEmpty
  | _, _ => false

/-- The orders for which `reconcileSingleOrder` has been called, and the updates of its `catch` branch that
have thrown while rows were left. -/
structure CycleNotes where
  begun : List String
  starved : Nat

namespace State

variable (i : Nat) (s : State)

def currentOrder? : Option String :=
  match s.tasks[i]? with
  | some (.reconcile cycle) => cycle.current?.map (·.orderId)
  | _ => none

def starves : Label → Bool
  | .settle j a =>
    match s.tasks[j]? with
    | some (.reconcile cycle) => j = i && cycle.starves a
    | _ => false
  | _ => false

def noteAttempts (s : State) (l : Label) (t : State) (notes : CycleNotes) : CycleNotes where
  begun := if t.currentOrder? i = s.currentOrder? i then notes.begun
    else notes.begun ++ (t.currentOrder? i).toList
  starved := notes.starved + (s.starves i l).toNat

def cycleOver : Prop := ∃ cycle, s.tasks[i]? = some (.reconcile cycle) ∧ cycle.settled = true

end State
end CourierPlatform
