import CourierPlatform.Model.Adapters
import CourierPlatform.Spec.Responses

/-! What the couriers answer when they are the two partners the platform comes with: what the code of
the adapters makes of what the UrbaneBolt API and the clock say. -/
namespace CourierPlatform
open Js UrbaneBoltClient

def Answer.ofResult {α : Type} (answered : α → Answer) : Except Thrown α → Answer
  | .ok reply => answered reply
  | .error error => .refused error

namespace Adapter

variable (adapter : Adapter)

inductive Books (order : NormalizedCreateOrderRequest) : Answer → Prop where
  | mock {now random} (named : adapter.partnerName = MockCourierAdapter.partnerName) :
      Books order (.booked (MockCourierAdapter.createShipment now random order))
  | urbaneBolt {config script payload now random settled}
      (named : adapter.partnerName = UrbaneBoltAdapter.partnerName)
      (ran : (UrbaneBoltAdapter.createShipment config script payload now random order []).2 =
        some settled) : Books order (.ofResult .booked settled)

/-- Of the bodies of the tracking API, only those that conform to `UrbaneBoltTrackingResponse`: what the
mapper makes of any other is left out. -/
inductive Tracks (js : JsText) (awbNumber orderId : String) : Answer → Prop where
  | mock {now} (named : adapter.partnerName = MockCourierAdapter.partnerName) :
      Tracks js awbNumber orderId
        (.tracked (MockCourierAdapter.trackShipment now awbNumber (some orderId)))
  | urbaneBolt {config script parseDate now} {reply : Except Thrown UrbaneBoltTrackingResponse}
      (named : adapter.partnerName = UrbaneBoltAdapter.partnerName)
      (ran : (request config script (UrbaneBoltAdapter.trackingRequest awbNumber) false []).2 =
        some (reply.map (·.rawResponse))) :
      Tracks js awbNumber orderId (.ofResult .tracked
        (UrbaneBoltAdapter.trackShipment js parseDate now awbNumber (some orderId) reply))

inductive Cancels (awbNumber orderId : String) (reason : Option String) : Answer → Prop where
  | mock {now} (named : adapter.partnerName = MockCourierAdapter.partnerName) :
      Cancels awbNumber orderId reason
        (.cancelled (MockCourierAdapter.cancelShipment now awbNumber (some orderId) reason))
  | urbaneBolt {config script now settled}
      (named : adapter.partnerName = UrbaneBoltAdapter.partnerName)
      (ran : (UrbaneBoltAdapter.cancelShipment config script now awbNumber (some orderId) []).2 =
        some settled) : Cancels awbNumber orderId reason (.ofResult .cancelled settled)

end Adapter

def Task.AdapterReplies (js : JsText) : Task → Answer → Prop
  | createOrder (.createShipment orderData _ adapter), answer => adapter.Books orderData answer
  | bulkItem _ _ (.createShipment orderData _ adapter), answer => adapter.Books orderData answer
  | reconcile (.createShipment order _ adapter _ _), answer =>
    adapter.Books order.rawRequestPayload answer
  | trackOrder (.trackShipment order awbNumber adapter), answer =>
    adapter.Tracks js awbNumber order.orderId answer
  | cancelOrder (.cancelShipment order adapter reason), answer =>
    adapter.Cancels (orDefault order.awbNumber "") order.orderId reason answer
  | _, _ => True

def State.AdaptersReply (js : JsText) (s : State) : Label → Prop
  | .settle i answer => ∀ task, s.tasks[i]? = some task → task.AdapterReplies js answer
  | _ => True

def Server.AdaptersReply (js : JsText) (s : Server) : ServerLabel → Prop
  | .platform l => s.platform.AdaptersReply js l
  | _ => True

/-! ## The mock partner -/

/-- Where the call awaits an adapter, it is the one of the mock partner, which replies at this instant. -/
def Task.mockReplies (now : Int) (random : Fin 9000) : Task → Answer → Bool
  | createOrder (.createShipment orderData _ adapter), .booked reply =>
    adapter.partnerName = MockCourierAdapter.partnerName &&
      reply = MockCourierAdapter.createShipment now random orderData
  | trackOrder (.trackShipment order awbNumber adapter), .tracked reply =>
    adapter.partnerName = MockCourierAdapter.partnerName &&
      reply = MockCourierAdapter.trackShipment now awbNumber (some order.orderId)
  | createOrder (.createShipment ..), _ => false
  | bulkItem _ _ (.createShipment ..), _ => false
  | reconcile (.createShipment ..), _ => false
  | trackOrder (.trackShipment ..), _ => false
  | cancelOrder (.cancelShipment ..), _ => false
  | _, _ => true

def Server.mockReplies (random : Fin 9000) (s : Server) : ServerLabel → Bool
  | .platform (.settle i answer) =>
    s.platform.tasks[i]?.all (·.mockReplies s.platform.world.now random answer)
  | _ => true

end CourierPlatform
