import CourierPlatform.Js.Date
import CourierPlatform.Model.UrbaneBoltClient
import CourierPlatform.Model.UrbaneBoltTracking

/-! The adapters of the two partners. `now` is the instant that `Date.now()` and `new Date()` read. -/
namespace CourierPlatform
open Js

namespace MockCourierAdapter

def partnerName : String := "mock"

def createShipment (now : Int) (random : Fin 9000) (order : NormalizedCreateOrderRequest) :
    NormalizedCreateOrderResponse :=
  let awbNumber := "MCK" ++ toString now ++ toString (1000 + random.val)
  let courierOrderId := "MCK-ORD-" ++ order.orderId
  { orderId := order.orderId
    courierPartner := partnerName
    courierOrderId
    awbNumber
    status := .created
    rawResponse := some <| .object [("success", .bool true),
      ("provider", .string "MockCourier Logistics Inc."), ("waybill", .string awbNumber),
      ("booking_reference", .string courierOrderId),
      ("estimated_pickup", .string (toISOString (now + 4 * 3600 * 1000))),
      ("service", .string (orDefault order.serviceType "STANDARD"))]
    rawRequest := order }

/-- The scans are always the same three, at instants before the poll. -/
def trackingHistory (now : Int) : List TrackingEventItem :=
  [{ status := .created
     activity := "Shipment label created and data received"
     location := some "Origin Facility - Mumbai"
     timestamp := now - 12 * 3600 * 1000 },
   { status := .pickedUp
     activity := "Package picked up by courier"
     location := some "Origin Facility - Mumbai"
     timestamp := now - 8 * 3600 * 1000 },
   { status := .inTransit
     activity := "Package departed sorting hub"
     location := some "Central Transit Hub - Delhi"
     timestamp := now - 2 * 3600 * 1000 }]

def trackShipment (now : Int) (awbNumber : String) (orderId : Option String) :
    NormalizedTrackingResponse where
  orderId := orDefault orderId ""
  courierPartner := partnerName
  awbNumber
  status := .inTransit
  currentStatusDescription := "Package in transit to delivery facility"
  estimatedDelivery := some (.string (toISOString (now + 24 * 3600 * 1000)))
  trackingHistory := trackingHistory now
  rawResponse := .object [("provider", .string "MockCourier"), ("waybill", .string awbNumber),
    ("status", .string ShipmentStatus.inTransit.text),
    ("location", .string "Central Transit Hub - Delhi")]

def cancelShipment (now : Int) (awbNumber : String) (orderId reason : Option String) :
    NormalizedCancelResponse where
  orderId := orDefault orderId ""
  courierPartner := partnerName
  awbNumber
  status := .cancelled
  cancelledAt := now
  message := .string ("Shipment " ++ awbNumber ++ " successfully cancelled with MockCourier. Reason: " ++
    orDefault reason "Customer request")
  rawResponse := some <| .object [("provider", .string "MockCourier"), ("waybill", .string awbNumber),
    ("cancellation_status", .string "CONFIRMED"), ("cancellation_time", .string (toISOString now))]

end MockCourierAdapter

namespace UrbaneBoltAdapter

def partnerName : String := "urbanebolt"

def trackingRequest (awbNumber : String) : ApiRequest where
  method := .get
  url := "/services/tracking-pub/"
  params := some [("awb", .string awbNumber)]

/-- The reason of the client is not passed on. -/
def cancelRequest (awbNumber : String) : ApiRequest where
  method := .post
  url := "/services/cancel/"
  data := some (.object [("awbs", .string awbNumber)])

/-- `trackShipment`, once its call has settled, with a body that conforms to its type if it has one. -/
def trackShipment (js : JsText) (parseDate : String → Option Int) (now : Int) (awbNumber : String)
    (orderId : Option String) (reply : Except Thrown UrbaneBoltTrackingResponse) :
    Except Thrown NormalizedTrackingResponse := do
  let trackingData ← reply
  UrbaneBoltMapper.toNormalizedTrackingResponse js parseDate now trackingData awbNumber orderId

def cancelShipment (config : ClientConfig) (script : CourierScript) (now : Int) (awbNumber : String)
    (orderId : Option String) : UrbaneBoltClient.ClientM NormalizedCancelResponse := fun s =>
  let cancel := UrbaneBoltClient.request config script (cancelRequest awbNumber) false s
  (cancel.1, cancel.2.map (UrbaneBoltMapper.cancelShipment now awbNumber orderId))

end UrbaneBoltAdapter
end CourierPlatform
