import CourierPlatform.Model.Tables

/-! `CancellationService.cancelOrder`. -/
namespace CourierPlatform
open Js

inductive CancelOrder where
  /-- `Order.findOne` of `fetchOrderForCancellation`. -/
  | fetchOrder (orderId : String) (reason : Option String)
  /-- `adapter.cancelShipment`. -/
  | cancelShipment (order : Order) (adapter : Adapter) (reason : Option String)
  /-- `order.update` of `persistCancelledState`. -/
  | updateCancelled (order : Order) (cancelResponse : NormalizedCancelResponse)
      (reason : Option String)
  /-- `TrackingEvent.create` of `persistCancelledState`. -/
  | createEvent (order : Order) (cancelResponse : NormalizedCancelResponse)
      (reason : Option String)
  | resolved (response : NormalizedCancelResponse)
  | rejected (error : Thrown)

namespace CancellationService

def cancelOrder (orderId : String) (reason : Option String) : CancelOrder :=
  .fetchOrder orderId reason

def checkIfAlreadyCancelled (order : Order) : Option NormalizedCancelResponse :=
  if order.status = .cancelled then
    some {
      orderId := order.orderId
      courierPartner := order.courierPartner
      awbNumber := orDefault order.awbNumber ""
      status := .cancelled
      cancelledAt := order.updatedAt
      message := .string "Order is already cancelled"
      rawResponse := order.rawResponsePayload }
  else none

def validateCancellableStatus (order : Order) : Except Thrown Unit :=
  if order.status = .delivered then
    .error (validationError "Cannot cancel an order that has already been delivered")
  else .ok ()

def afterFetch (env : Env) (orderId : String) (reason : Option String) :
    Option Order → CancelOrder
  | none => .rejected
      (notFoundError ("Order with ID '" ++ orderId ++ "' was not found") .orderNotFound)
  | some order =>
    match checkIfAlreadyCancelled order with
    | some alreadyCancelledResponse => .resolved alreadyCancelledResponse
    | none =>
      match validateCancellableStatus order with
      | .error invalid => .rejected invalid
      | .ok () =>
        match env.registry.get env.js order.courierPartner with
        | .error unknown => .rejected unknown
        | .ok adapter => .cancelShipment order adapter reason

def cancelledPatch : OrderPatch where
  status := some .cancelled

def cancellationEvent (order : Order) (cancelResponse : NormalizedCancelResponse)
    (reason : Option String) (now : Int) : TrackingEvent where
  orderId := order.orderId
  awbNumber := orDefault order.awbNumber ""
  status := .cancelled
  activity := "Shipment cancelled. Reason: " ++ orDefault reason "Customer requested cancellation"
  location := none
  eventTimestamp := now
  rawPayload := cancelResponse.rawResponse.bind jsonColumn

def step (env : Env) (w : World) : CancelOrder → Answer → Option (World × CancelOrder)
  | .fetchOrder orderId reason, .ok =>
    some (w, afterFetch env orderId reason (w.findOne orderId))
  | .cancelShipment order adapter reason, .cancelled reply =>
    some (w.record (.cancelShipment adapter (orDefault order.awbNumber "") order.orderId reason
      (.ok reply)), .updateCancelled order reply reason)
  | .cancelShipment order adapter reason, .refused error =>
    some (w.record (.cancelShipment adapter (orDefault order.awbNumber "") order.orderId reason
      (.error error)), .rejected error)
  | .updateCancelled order cancelResponse reason, .ok =>
    some (w.updateOrder env order cancelledPatch,
      .createEvent (order.assign w.now cancelledPatch) cancelResponse reason)
  | .createEvent order cancelResponse reason, .ok =>
    some (w.createEvent (cancellationEvent order cancelResponse reason w.now),
      .resolved cancelResponse)
  | .fetchOrder .., .dbError error => some (w, .rejected error)
  | .updateCancelled .., .dbError error => some (w, .rejected error)
  | .createEvent .., .dbError error => some (w, .rejected error)
  | _, _ => none

end CancellationService

def CancelOrder.settled : CancelOrder → Bool
  | resolved _ => true
  | rejected _ => true
  | _ => false

end CourierPlatform
