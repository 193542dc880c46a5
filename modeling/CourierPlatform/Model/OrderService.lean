import CourierPlatform.Model.Tables

/-! `OrderService.createOrder`. Between two awaits the code runs without
interruption, so a call in flight is the await it is suspended at together with
the variables that are live there. -/
namespace CourierPlatform
open Js

inductive CreateOrder where
  /-- `Order.findOne` of the idempotency check. -/
  | findOne (orderData : NormalizedCreateOrderRequest)
  /-- `existingOrder.update` of `prePersistPendingOrder`. -/
  | updateExisting (orderData : NormalizedCreateOrderRequest) (existingOrder : Order)
  /-- `Order.create` of `prePersistPendingOrder`. -/
  | createRow (orderData : NormalizedCreateOrderRequest)
  /-- `adapter.createShipment` of `dispatchWithFailureAudit`. -/
  | createShipment (orderData : NormalizedCreateOrderRequest) (persistedOrder : Order)
      (adapter : Adapter)
  /-- `persistedOrder.update` of `recordFailureAudit`. -/
  | updateFailed (orderData : NormalizedCreateOrderRequest) (persistedOrder : Order)
      (error : Thrown)
  /-- The transaction of `persistOrderAndInitialTracking`; on SQLite only its `update`. -/
  | saveUpdate (orderData : NormalizedCreateOrderRequest)
      (courierResponse : NormalizedCreateOrderResponse) (persistedOrder : Order)
  /-- `TrackingEvent.create` of `persistOrderAndInitialTracking`, on SQLite. -/
  | saveEvent (orderData : NormalizedCreateOrderRequest)
      (courierResponse : NormalizedCreateOrderResponse) (persistedOrder : Order)
  | resolved (response : NormalizedCreateOrderResponse)
  | rejected (error : Thrown)

namespace OrderService

def checkIdempotentResponse (existingOrder : Option Order) :
    Option NormalizedCreateOrderResponse :=
  match existingOrder with
  | some existing =>
    if existing.status ≠ .failed ∧ existing.status ≠ .pendingDispatch then
      some {
        orderId := existing.orderId
        courierPartner := existing.courierPartner
        courierOrderId := orDefault existing.courierOrderId existing.orderId
        awbNumber := orDefault existing.awbNumber ""
        status := existing.status
        rawResponse := existing.rawResponsePayload
        rawRequest := existing.rawRequestPayload }
    else none
  | none => none

def pendingPatch (orderData : NormalizedCreateOrderRequest) : OrderPatch where
  status := some .pendingDispatch
  failureReason := some none
  rawRequestPayload := some orderData

def pendingOrder (orderData : NormalizedCreateOrderRequest) (now : Int) : Order where
  orderId := orderData.orderId
  courierPartner := orderData.courierPartner
  courierOrderId := none
  awbNumber := none
  status := .pendingDispatch
  retryCount := 0
  rawRequestPayload := orderData
  rawResponsePayload := none
  failureReason := none
  senderDetails := orderData.sender
  recipientDetails := orderData.recipient
  packageDetails := orderData.packageDetails
  paymentDetails := orderData.paymentDetails
  serviceType := orNull orderData.serviceType
  updatedAt := now

def prePersistPendingOrder (orderData : NormalizedCreateOrderRequest) :
    Option Order → CreateOrder
  | some existingOrder => .updateExisting orderData existingOrder
  | none => .createRow orderData

def dispatchWithFailureAudit (env : Env) (orderData : NormalizedCreateOrderRequest)
    (persistedOrder : Order) : CreateOrder :=
  match env.registry.get env.js orderData.courierPartner with
  | .error unknown => .rejected unknown
  | .ok adapter => .createShipment orderData persistedOrder adapter

/-- `error instanceof CourierError ? error.rawCourierResponse : null`; a field set to
`undefined` is not written. -/
def rawResponse : Thrown → Option (Option Json)
  | .courierError _ _ _ _ rawCourierResponse _ => rawCourierResponse.map jsonColumn
  | _ => some none

def failedPatch (error : Thrown) : OrderPatch where
  status := some .failed
  failureReason := some (some error.message)
  rawResponsePayload := rawResponse error

def createdPatch (courierResponse : NormalizedCreateOrderResponse) : OrderPatch where
  courierOrderId := some (some courierResponse.courierOrderId)
  awbNumber := some (some courierResponse.awbNumber)
  status := some courierResponse.status
  rawResponsePayload := courierResponse.rawResponse.map jsonColumn
  failureReason := some none

def initialTracking (env : Env) (orderData : NormalizedCreateOrderRequest)
    (courierResponse : NormalizedCreateOrderResponse) (persistedOrder : Order) (now : Int) :
    TrackingEvent where
  orderId := persistedOrder.orderId
  awbNumber := courierResponse.awbNumber
  status := .created
  activity := "Shipment booked with " ++ env.js.toUpperCase orderData.courierPartner
  location := some orderData.sender.city
  eventTimestamp := now
  rawPayload := courierResponse.rawResponse.bind jsonColumn

def createOrder (orderData : NormalizedCreateOrderRequest) : CreateOrder := .findOne orderData

def afterFindOne (orderData : NormalizedCreateOrderRequest) (existingOrder : Option Order) :
    CreateOrder :=
  match checkIdempotentResponse existingOrder with
  | some idempotentResponse => .resolved idempotentResponse
  | none => prePersistPendingOrder orderData existingOrder

/-- The awaited call settles and the code runs to its next await. -/
def step (env : Env) (w : World) : CreateOrder → Answer → Option (World × CreateOrder)
  | .findOne orderData, .ok => some (w, afterFindOne orderData (w.findOne orderData.orderId))
  | .updateExisting orderData existingOrder, .ok =>
    some (w.updateOrder env existingOrder (pendingPatch orderData),
      dispatchWithFailureAudit env orderData
        (existingOrder.assign w.now (pendingPatch orderData)))
  | .createRow orderData, .ok =>
    match w.createOrder? (pendingOrder orderData w.now) with
    | some created =>
      some (created, dispatchWithFailureAudit env orderData (pendingOrder orderData w.now))
    | none => some (w, .rejected uniqueConstraintError)
  | .createShipment orderData persistedOrder adapter, .booked reply =>
    some (w.record (.createShipment adapter orderData (.ok reply)),
      .saveUpdate orderData reply persistedOrder)
  | .createShipment orderData persistedOrder adapter, .refused error =>
    some (w.record (.createShipment adapter orderData (.error error)),
      .updateFailed orderData persistedOrder error)
  | .updateFailed _ persistedOrder error, .ok =>
    some (w.updateOrder env persistedOrder (failedPatch error), .rejected error)
  -- a failing audit write is logged and swallowed
  | .updateFailed _ _ error, .dbError _ => some (w, .rejected error)
  | .saveUpdate orderData courierResponse persistedOrder, .ok =>
    let updated := w.updateOrder env persistedOrder (createdPatch courierResponse)
    match env.dialect with
    | .sqlite => some (updated, .saveEvent orderData courierResponse persistedOrder)
    | .postgres =>
      some (updated.createEvent
        (initialTracking env orderData courierResponse persistedOrder w.now),
        .resolved courierResponse)
  | .saveEvent orderData courierResponse persistedOrder, .ok =>
    some (w.createEvent (initialTracking env orderData courierResponse persistedOrder w.now),
      .resolved courierResponse)
  | .findOne .., .dbError error => some (w, .rejected error)
  | .updateExisting .., .dbError error => some (w, .rejected error)
  | .createRow .., .dbError error => some (w, .rejected error)
  | .saveUpdate .., .dbError error => some (w, .rejected error)
  | .saveEvent .., .dbError error => some (w, .rejected error)
  | _, _ => none

end OrderService

def CreateOrder.settled : CreateOrder → Bool
  | resolved _ => true
  | rejected _ => true
  | _ => false

/-- A status under which the idempotency check lets a request through. -/
def ShipmentStatus.isOpen (status : ShipmentStatus) : Bool :=
  status = failed || status = pendingDispatch

end CourierPlatform
