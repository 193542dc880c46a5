import CourierPlatform.Model.Tables
import CourierPlatform.Model.UrbaneBoltMapper

/-! `UrbaneBoltMapper.toNormalizedTrackingResponse`. Instants are milliseconds; which instant a date
text denotes is left to `parseDate`, with `none` for an invalid date. -/
namespace CourierPlatform
open Js

def ShipmentStatus.text : ShipmentStatus → String
  | pendingDispatch => "PENDING_DISPATCH"
  | created => "CREATED"
  | pickedUp => "PICKED_UP"
  | inTransit => "IN_TRANSIT"
  | delivered => "DELIVERED"
  | cancelled => "CANCELLED"
  | failed => "FAILED"

/-- A scan, with the named fields texts where it has them. -/
structure UrbaneBoltTrackingEvent where
  fields : List (String × Json)
  typed : (["status", "activity", "action", "location", "city", "timestamp", "date", "time"].all
    fun name => (Json.field? name fields).all Json.isText) = true
deriving DecidableEq

namespace UrbaneBoltTrackingEvent

variable (evt : UrbaneBoltTrackingEvent)

def toJson : Json := .object evt.fields

def text? (name : String) : Option String :=
  match Json.field? name evt.fields with
  | some (.string text) => some text
  | _ => none

end UrbaneBoltTrackingEvent

/-- A tracking body whose events are scans. The rest of it is arbitrary. -/
structure UrbaneBoltTrackingResponse where
  rawResponse : Json
  rawEvents : List UrbaneBoltTrackingEvent
  listed : (Json.firstTruthy [rawResponse.get? "events", rawResponse.get? "scans",
      rawResponse.get? "history"]).getD (.array []) =
    .array (rawEvents.map UrbaneBoltTrackingEvent.toJson)

namespace UrbaneBoltMapper

/-- `evt.timestamp || evt.date`. -/
def scanDate (evt : UrbaneBoltTrackingEvent) : Option String :=
  (orNull (evt.text? "timestamp")).or (orNull (evt.text? "date"))

/-- The instant that a scan is given; a scan without a date is given the clock's. -/
def scanInstant (parseDate : String → Option Int) (now : Int) (evt : UrbaneBoltTrackingEvent) :
    Option Int :=
  match scanDate evt with
  | some timestamp => parseDate timestamp
  | none => some now

def scanStatus (js : JsText) (evt : UrbaneBoltTrackingEvent) : ShipmentStatus :=
  let rawStatus := orDefault (evt.text? "status")
    (orDefault (evt.text? "activity") (orDefault (evt.text? "action") "IN_TRANSIT"))
  mapStatus js (js.toUpperCase rawStatus)

def scanActivity (evt : UrbaneBoltTrackingEvent) : String :=
  orDefault (evt.text? "activity")
    (orDefault (evt.text? "action") (orDefault (evt.text? "status") "Status update"))

def scanItem (js : JsText) (evt : UrbaneBoltTrackingEvent) (timestamp : Int) : TrackingEventItem where
  status := scanStatus js evt
  activity := scanActivity evt
  location := some (orDefault (evt.text? "location") (orDefault (evt.text? "city") "Transit Hub"))
  timestamp
  rawDetails := some evt.toJson

def mapTrackingTimeline (js : JsText) (parseDate : String → Option Int) (now : Int)
    (rawEvents : List UrbaneBoltTrackingEvent) : Except Thrown (List TrackingEventItem) :=
  rawEvents.mapM fun evt =>
    match scanInstant parseDate now evt with
    | some timestamp => .ok (scanItem js evt timestamp)
    | none => .error (.error "Invalid time value")

def statusFields (rawResponse : Json) : List (Option Json) :=
  [rawResponse.get? "current_status", rawResponse.get? "status"]

def resolveCurrentTrackingStatus (js : JsText) (rawResponse : Json)
    (mappedEvents : List TrackingEventItem) : Except Thrown ShipmentStatus :=
  match Json.firstTruthy (statusFields rawResponse) with
  | some _ => do
    let text ← stringOf (statusFields rawResponse) ""
    .ok (mapStatus js text)
  | none => .ok ((mappedEvents.getLast?.map (·.status)).getD .created)

/-- `orderId || String(trackingData.orderNumber || '')`. -/
def trackedOrderId (rawResponse : Json) (orderId : Option String) : Except Thrown String :=
  match orNull orderId with
  | some orderId => .ok orderId
  | none => stringOf [rawResponse.get? "orderNumber"] ""

def toNormalizedTrackingResponse (js : JsText) (parseDate : String → Option Int) (now : Int)
    (trackingData : UrbaneBoltTrackingResponse) (awbNumber : String) (orderId : Option String) :
    Except Thrown NormalizedTrackingResponse := do
  let rawResponse := trackingData.rawResponse
  let mappedEvents ← mapTrackingTimeline js parseDate now trackingData.rawEvents
  let currentStatus ← resolveCurrentTrackingStatus js rawResponse mappedEvents
  let orderId ← trackedOrderId rawResponse orderId
  let description ← stringOf (statusFields rawResponse) currentStatus.text
  .ok {
    orderId
    courierPartner := "urbanebolt"
    awbNumber
    status := currentStatus
    currentStatusDescription := description
    estimatedDelivery := rawResponse.get? "estimated_delivery"
    trackingHistory := mappedEvents
    rawResponse }

end UrbaneBoltMapper
end CourierPlatform
