import CourierPlatform.Model.OrderService

/-! `OrderReconciliationWorker.reconcilePendingOrders`, from the query on; its guards are in
`Model.LeaderElection`. A cycle carries the rows its query returned and works through them one by
one; each row stays the instance it was when the query ran. -/
namespace CourierPlatform
open Js

/-- A cycle, suspended at an await or settled. `nextRetry` was computed when the row was
begun, `rest` are the rows not yet begun and `count` the orders recovered so far. -/
inductive Reconcile where
  /-- `Order.findAll`, with the timestamp computed before it. -/
  | findAll (staleTimestamp : Int)
  /-- `order.update` for a partner that is not registered. -/
  | updateUnsupported (order : Order) (nextRetry : Nat) (rest : List Order) (count : Nat)
  /-- `adapter.createShipment`. -/
  | createShipment (order : Order) (nextRetry : Nat) (adapter : Adapter) (rest : List Order)
      (count : Nat)
  /-- `order.update` to `CREATED`. -/
  | updateCreated (order : Order) (nextRetry : Nat)
      (courierResponse : NormalizedCreateOrderResponse) (rest : List Order) (count : Nat)
  /-- `TrackingEvent.create`, inside the same `try`. -/
  | createEvent (order : Order) (nextRetry : Nat)
      (courierResponse : NormalizedCreateOrderResponse) (rest : List Order) (count : Nat)
  /-- `order.update` of the `catch` branch. -/
  | updateCaught (order : Order) (nextRetry : Nat) (errorMessage : String) (rest : List Order)
      (count : Nat)
  | resolved (count : Nat)
  | rejected (error : Thrown)

namespace ReconciliationWorker

def lockKey : String := "worker:order_reconciliation:leader_lock"

def lockTtlSeconds (intervalMs : Int) : Int := max 10 (intervalMs / 1000 - 5)

def selects (env : Env) (staleTimestamp : Int) (order : Order) : Bool :=
  order.status = .pendingDispatch ∧ order.updatedAt < staleTimestamp ∧
    order.retryCount < env.maxRetryAttempts

def batchLimit : Nat := 25

/-- The query may return any selected rows, but no fewer than the limit allows. -/
def isResult (env : Env) (w : World) (staleTimestamp : Int) (orderIds : List String) : Bool :=
  orderIds.Nodup ∧
    (∀ x ∈ orderIds, (w.findOne x).any (selects env staleTimestamp)) ∧
    orderIds.length = min batchLimit (w.orders.rows.countP (selects env staleTimestamp))

theorem selects_iff {env : Env} {staleTimestamp : Int} {order : Order} :
    selects env staleTimestamp order = true ↔ order.status = .pendingDispatch ∧
      order.updatedAt < staleTimestamp ∧ order.retryCount < env.maxRetryAttempts :=
  decide_eq_true_iff

theorem isResult_iff {env : Env} {w : World} {staleTimestamp : Int} {orderIds : List String} :
    isResult env w staleTimestamp orderIds = true ↔ orderIds.Nodup ∧
      (∀ x ∈ orderIds, ∃ row, w.findOne x = some row ∧ selects env staleTimestamp row = true) ∧
      orderIds.length = min batchLimit (w.orders.rows.countP (selects env staleTimestamp)) := by
  simp only [isResult, decide_eq_true_iff, Option.any_eq_true]

def unsupportedPatch (order : Order) (nextRetry : Nat) : OrderPatch where
  status := some .failed
  failureReason := some (some ("Unsupported courier partner: " ++ order.courierPartner))
  retryCount := some nextRetry

def createdPatch (courierResponse : NormalizedCreateOrderResponse) (nextRetry : Nat) :
    OrderPatch where
  courierOrderId := some (some courierResponse.courierOrderId)
  awbNumber := some (some courierResponse.awbNumber)
  status := some .created
  rawResponsePayload := courierResponse.rawResponse.map jsonColumn
  failureReason := some none
  retryCount := some nextRetry

def caughtPatch (env : Env) (nextRetry : Nat) (errorMessage : String) : OrderPatch where
  status := some (if nextRetry ≥ env.maxRetryAttempts then .failed else .pendingDispatch)
  failureReason := some (some ("Reconciliation error: " ++ errorMessage))
  retryCount := some nextRetry

def recoveredEvent (env : Env) (order : Order) (courierResponse : NormalizedCreateOrderResponse)
    (now : Int) : TrackingEvent where
  orderId := order.orderId
  awbNumber := courierResponse.awbNumber
  status := .created
  activity := "Shipment recovered and booked by Reconciliation Worker (" ++
    env.js.toUpperCase order.courierPartner ++ ")"
  location := some (orDefault (some order.senderDetails.city) "Origin Hub")
  eventTimestamp := now
  rawPayload := courierResponse.rawResponse.bind jsonColumn

/-- The cycle up to its query. -/
def reconcilePendingOrders (env : Env) (now : Int) : Reconcile :=
  .findAll (now - env.staleThresholdMs)

/-- `reconcileSingleOrder` up to its first await. -/
def reconcileSingleOrder (env : Env) (order : Order) (rest : List Order) (count : Nat) :
    Reconcile :=
  let nextRetry := order.retryCount + 1
  if env.registry.has env.js order.courierPartner then
    match env.registry.get env.js order.courierPartner with
    | .ok adapter => .createShipment order nextRetry adapter rest count
    | .error unknown => .updateCaught order nextRetry unknown.message rest count
  else .updateUnsupported order nextRetry rest count

def nextOrder (env : Env) (count : Nat) : List Order → Reconcile
  | [] => .resolved count
  | order :: rest => reconcileSingleOrder env order rest count

def step (env : Env) (w : World) : Reconcile → Answer → Option (World × Reconcile)
  | .findAll staleTimestamp, .rows orderIds =>
    if isResult env w staleTimestamp orderIds then
      some (w, nextOrder env 0 (orderIds.filterMap w.findOne))
    else none
  | .findAll _, .dbError error => some (w, .rejected error)
  | .updateUnsupported order nextRetry rest count, .ok =>
    some (w.updateOrder env order (unsupportedPatch order nextRetry), nextOrder env count rest)
  | .updateUnsupported order nextRetry rest count, .dbError error =>
    some (w, .updateCaught order nextRetry error.message rest count)
  | .createShipment order nextRetry adapter rest count, .booked reply =>
    some (w.record (.createShipment adapter order.rawRequestPayload (.ok reply)),
      .updateCreated order nextRetry reply rest count)
  | .createShipment order nextRetry adapter rest count, .refused error =>
    some (w.record (.createShipment adapter order.rawRequestPayload (.error error)),
      .updateCaught order nextRetry error.message rest count)
  | .updateCreated order nextRetry courierResponse rest count, .ok =>
    let patch := createdPatch courierResponse nextRetry
    some (w.updateOrder env order patch,
      .createEvent (order.assign w.now patch) nextRetry courierResponse rest count)
  | .updateCreated order nextRetry _ rest count, .dbError error =>
    some (w, .updateCaught order nextRetry error.message rest count)
  | .createEvent order _ courierResponse rest count, .ok =>
    some (w.createEvent (recoveredEvent env order courierResponse w.now),
      nextOrder env (count + 1) rest)
  | .createEvent order nextRetry _ rest count, .dbError error =>
    some (w, .updateCaught order nextRetry error.message rest count)
  | .updateCaught order nextRetry errorMessage rest count, .ok =>
    some (w.updateOrder env order (caughtPatch env nextRetry errorMessage),
      nextOrder env count rest)
  -- the `catch` branch itself throws: the loop ends and the cycle rejects
  | .updateCaught .., .dbError error => some (w, .rejected error)
  | _, _ => none

end ReconciliationWorker

def Reconcile.settled : Reconcile → Bool
  | resolved _ => true
  | rejected _ => true
  | _ => false

end CourierPlatform
