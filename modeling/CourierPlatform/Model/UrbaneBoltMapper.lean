import CourierPlatform.Model.Registry

/-! `UrbaneBoltMapper`: the replies of the UrbaneBolt API, which are arbitrary
JSON, as the platform reads them. -/
namespace CourierPlatform
open Js

theorem Except.of_bind_ok {ε α β : Type} {first : Except ε α} {rest : α → Except ε β} {b : β}
    (h : first >>= rest = .ok b) : ∃ a, first = .ok a ∧ rest a = .ok b := by
  cases first with
  | error e => contradiction
  | ok a => exact ⟨a, rfl, h⟩

namespace UrbaneBoltMapper

/-- The fields of a value that is read with `value.name`; only `null` has no properties at all. -/
def properties (first : String) : Json → Except Thrown (List (String × Json))
  | .null => .error (.error ("Cannot read properties of null (reading '" ++ first ++ "')"))
  | .object fields => .ok fields
  | _ => .ok []

def stringOf (alternatives : List (Option Json)) (last : String) : Except Thrown String :=
  match Json.firstTruthy alternatives with
  | none => .ok last
  | some value =>
    match value.toText? with
    | some text => .ok text
    | none => .error (.error "Cannot convert object to primitive value")

/-- `UB${Date.now()}${Math.floor(1000 + Math.random() * 9000)}`. -/
def generatedAwb (now : Int) (random : Fin 9000) : String :=
  "UB" ++ toString now ++ toString (1000 + random.val)

def readCreateResponse (rawResponse : Json) (originalRequest : NormalizedCreateOrderRequest) :
    Except Thrown (String × String) :=
  match rawResponse with
  | .array (item :: _) => do
    let fields ← properties "awb" item
    let get (name : String) : Option Json := Json.field? name fields
    let awbNumber ← stringOf [get "awb", get "awbNumber", get "awb_number"] ""
    let courierOrderId ← stringOf [get "orderNumber", get "order_id"] originalRequest.orderId
    .ok (awbNumber, courierOrderId)
  | .object fields => do
    let get (name : String) : Option Json := Json.field? name fields
    let awbNumber ←
      stringOf [get "awb", get "awbNumber", get "awb_number", get "tracking_number"] ""
    let courierOrderId ← stringOf [get "orderNumber", get "order_id"] originalRequest.orderId
    .ok (awbNumber, courierOrderId)
  -- an empty array is an object, but none of the names is a property of it
  | _ => .ok ("", originalRequest.orderId)

def toNormalizedCreateResponse (now : Int) (random : Fin 9000) (rawResponse : Json)
    (originalRequest : NormalizedCreateOrderRequest) :
    Except Thrown NormalizedCreateOrderResponse := do
  let (awbNumber, courierOrderId) ← readCreateResponse rawResponse originalRequest
  .ok {
    orderId := originalRequest.orderId
    courierPartner := "urbanebolt"
    courierOrderId
    awbNumber := if awbNumber = "" then generatedAwb now random else awbNumber
    status := .created
    rawResponse := some rawResponse
    rawRequest := originalRequest }

def createShipment (now : Int) (random : Fin 9000) (order : NormalizedCreateOrderRequest)
    (manifest : Except Thrown Json) : Except Thrown NormalizedCreateOrderResponse := do
  let rawResponse ← manifest
  toNormalizedCreateResponse now random rawResponse order

/-- `(rawResponse || {}).message || ..`; nothing else of the body is read. -/
def toNormalizedCancelResponse (now : Int) (rawResponse : Json) (awbNumber : String)
    (orderId : Option String) : NormalizedCancelResponse where
  orderId := (orderId.filter (· ≠ "")).getD ""
  courierPartner := "urbanebolt"
  awbNumber
  status := .cancelled
  cancelledAt := now
  message := (Json.firstTruthy [rawResponse.get? "message"]).getD
    (.string "Shipment cancelled successfully with UrbaneBolt")
  rawResponse := some rawResponse

def cancelShipment (now : Int) (awbNumber : String) (orderId : Option String)
    (reply : Except Thrown Json) : Except Thrown NormalizedCancelResponse := do
  let rawResponse ← reply
  .ok (toNormalizedCancelResponse now rawResponse awbNumber orderId)

/-- The keywords of each status, in the order in which they are looked for. -/
def statusKeywords : List (ShipmentStatus × List String) :=
  [(.failed, ["UNDELIVER", "NOTDELIVER", "FAIL", "REJECT", "RTO", "RETURN", "EXCEPTION"]),
    (.cancelled, ["CANCEL"]),
    (.inTransit, ["OUTFOR", "OFD", "TRANSIT", "REACHED", "HUB", "SORT"]),
    (.delivered, ["DELIVER"]),
    (.pickedUp, ["PICK", "COLLECTED", "DISPATCHED"])]

/-- `rawStatus.toUpperCase().replace(/[\s-_]/g, '')`. -/
def normalizeStatus (js : JsText) (rawStatus : String) : String :=
  String.ofList <|
    (js.toUpperCase rawStatus).toList.filter fun c => !(js.isSpace c || c = '-' || c = '_')

def mapStatus (js : JsText) (rawStatus : String) : ShipmentStatus :=
  let normalized := normalizeStatus js rawStatus
  ((statusKeywords.find? fun entry => entry.2.any (JsText.includes normalized)).map Prod.fst).getD
    .created

/-- A text never maps to the status that the platform itself gives before booking. -/
theorem mapStatus_ne_pendingDispatch (js : JsText) (rawStatus : String) :
    mapStatus js rawStatus ≠ .pendingDispatch := by
  have mapped : ∀ entry ∈ statusKeywords, entry.1 ≠ .pendingDispatch := by decide
  unfold mapStatus
  cases found : statusKeywords.find? fun entry =>
      entry.2.any (JsText.includes (normalizeStatus js rawStatus)) with
  | none => simp [found]
  | some entry => simpa [found] using mapped entry (List.mem_of_find?_eq_some found)

example : mapStatus .ascii "RTO Initiated" = .failed := by decide
example : mapStatus .ascii "out-for-delivery" = .inTransit := by decide

end UrbaneBoltMapper
end CourierPlatform
