import CourierPlatform.Model.Tables

/-! `TrackingService.trackOrder`. -/
namespace CourierPlatform
open Js

inductive TrackOrder where
  /-- `Order.findOne` of `fetchOrderWithHistory`. -/
  | fetchOrder (orderId : String)
  /-- `adapter.trackShipment` with the AWB that was read. -/
  | trackShipment (order : Order) (awbNumber : String) (adapter : Adapter)
  /-- `order.update` of `updateOrderStatusIfChanged`. -/
  | updateStatus (order : Order) (trackingResponse : NormalizedTrackingResponse)
  /-- `TrackingEvent.findOne` of `persistUniqueTrackingEvent`. -/
  | findEvent (order : Order) (trackingResponse : NormalizedTrackingResponse)
      (event : TrackingEventItem) (rest : List TrackingEventItem)
  /-- `TrackingEvent.create` of `persistUniqueTrackingEvent`. -/
  | createEvent (order : Order) (trackingResponse : NormalizedTrackingResponse)
      (event : TrackingEventItem) (rest : List TrackingEventItem)
  | resolved (response : NormalizedTrackingResponse)
  | rejected (error : Thrown)

namespace TrackingService

def trackOrder (orderId : String) : TrackOrder := .fetchOrder orderId

def afterFetch (env : Env) (orderId : String) : Option Order → TrackOrder
  | none => .rejected
      (notFoundError ("Order with ID '" ++ orderId ++ "' was not found") .orderNotFound)
  | some order =>
    match orNull order.awbNumber with
    | none => .rejected
        (notFoundError ("No AWB / tracking number found for order '" ++ orderId ++ "'")
          .resourceNotFound)
    | some awbNumber =>
      match env.registry.get env.js order.courierPartner with
      | .error unknown => .rejected unknown
      | .ok adapter => .trackShipment order awbNumber adapter

def statusPatch (trackingResponse : NormalizedTrackingResponse) : OrderPatch where
  status := some trackingResponse.status

def nextEvent (order : Order) (trackingResponse : NormalizedTrackingResponse) :
    List TrackingEventItem → TrackOrder
  | [] => .resolved trackingResponse
  | event :: rest => .findEvent order trackingResponse event rest

def updateOrderStatusIfChanged (order : Order) (trackingResponse : NormalizedTrackingResponse) :
    TrackOrder :=
  if order.status ≠ trackingResponse.status then .updateStatus order trackingResponse
  else nextEvent order trackingResponse trackingResponse.trackingHistory

def sameEvent (order : Order) (event : TrackingEventItem) (stored : TrackingEvent) : Bool :=
  stored.orderId = order.orderId ∧ stored.status = event.status ∧
    stored.activity = event.activity ∧ stored.eventTimestamp = event.timestamp

def newEvent (order : Order) (trackingResponse : NormalizedTrackingResponse)
    (event : TrackingEventItem) : TrackingEvent where
  orderId := order.orderId
  awbNumber := order.awbNumber.getD ""
  status := event.status
  activity := event.activity
  location := orNull event.location
  eventTimestamp := event.timestamp
  rawPayload :=
    (Json.firstTruthy [event.rawDetails]).or (jsonColumn trackingResponse.rawResponse)

def step (env : Env) (w : World) : TrackOrder → Answer → Option (World × TrackOrder)
  | .fetchOrder orderId, .ok => some (w, afterFetch env orderId (w.findOne orderId))
  | .trackShipment order awbNumber adapter, .tracked reply =>
    some (w.record (.trackShipment adapter awbNumber order.orderId (.ok reply)),
      updateOrderStatusIfChanged order reply)
  | .trackShipment order awbNumber adapter, .refused error =>
    some (w.record (.trackShipment adapter awbNumber order.orderId (.error error)),
      .rejected error)
  | .updateStatus order trackingResponse, .ok =>
    some (w.updateOrder env order (statusPatch trackingResponse),
      nextEvent (order.assign w.now (statusPatch trackingResponse)) trackingResponse
        trackingResponse.trackingHistory)
  | .findEvent order trackingResponse event rest, .ok =>
    some (w,
      if w.events.any (sameEvent order event) then nextEvent order trackingResponse rest
      else .createEvent order trackingResponse event rest)
  | .createEvent order trackingResponse event rest, .ok =>
    some (w.createEvent (newEvent order trackingResponse event),
      nextEvent order trackingResponse rest)
  | .fetchOrder _, .dbError error => some (w, .rejected error)
  | .updateStatus .., .dbError error => some (w, .rejected error)
  | .findEvent .., .dbError error => some (w, .rejected error)
  | .createEvent .., .dbError error => some (w, .rejected error)
  | _, _ => none

end TrackingService

def TrackOrder.settled : TrackOrder → Bool
  | resolved _ => true
  | rejected _ => true
  | _ => false

end CourierPlatform
