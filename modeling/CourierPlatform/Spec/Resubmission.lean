import CourierPlatform.Model.System

/-! A `createOrder` request that has been answered and is sent once more. -/
namespace CourierPlatform
open OrderService

/-- What the `courier_partner` column holds once the request has got past the idempotency check:
a resubmission leaves the column as it is. -/
def NormalizedCreateOrderRequest.storedPartner (orderData : NormalizedCreateOrderRequest) :
    Option Order → String
  | some existing => existing.courierPartner
  | none => orderData.courierPartner

/-- The courier's reply is what the row will answer in its place. -/
structure NormalizedCreateOrderResponse.Repeatable (reply : NormalizedCreateOrderResponse)
    (orderData : NormalizedCreateOrderRequest) (prior : Option Order) : Prop where
  closed : reply.status.isOpen = false
  order : reply.orderId = orderData.orderId
  partner : reply.courierPartner = orderData.storedPartner prior
  /-- An empty `courier_order_id` is answered with the `order_id`. -/
  numbered : reply.courierOrderId = "" → orderData.orderId = ""

structure NormalizedCreateOrderResponse.Agrees (first again : NormalizedCreateOrderResponse) :
    Prop where
  orderId : again.orderId = first.orderId
  courierPartner : again.courierPartner = first.courierPartner
  courierOrderId : again.courierOrderId = first.courierOrderId
  awbNumber : again.awbNumber = first.awbNumber
  status : again.status = first.status

def Task.createResponse? : Task → Option NormalizedCreateOrderResponse
  | createOrder (.resolved response) => some response
  | _ => none

theorem Task.of_createResponse? {found : Option Task} {response : NormalizedCreateOrderResponse}
    (h : found.bind createResponse? = some response) :
    found = some (.createOrder (.resolved response)) := by
  obtain ⟨task, rfl, answered⟩ := Option.bind_eq_some_iff.mp h
  unfold createResponse? at answered
  split at answered
  · cases answered
    rfl
  · contradiction

namespace State

def receive (s : State) (orderData : NormalizedCreateOrderRequest) : State :=
  ⟨s.world, s.tasks ++ [.createOrder (createOrder orderData)]⟩

def servesOnly (i : Nat) : Label → Bool
  | .settle j _ => j = i
  | .tick _ => true
  | _ => false

def servesWell (i : Nat) : Label → Bool
  | .settle _ (.dbError _) => false
  | l => servesOnly i l

/-- Sent again in this state, the request is answered as before and leaves no trace. -/
structure Repeats (env : Env) (s : State) (orderData : NormalizedCreateOrderRequest)
    (first : NormalizedCreateOrderResponse) : Prop where
  silent : ∀ t, (platform env).Reaches (fun _ l => servesWell s.tasks.length l = true)
    (s.receive orderData) t → t.world.courierCalls = s.world.courierCalls ∧
      t.world.orders = s.world.orders ∧ t.world.events = s.world.events
  agrees : ∀ t again, (platform env).Reaches (fun _ l => servesWell s.tasks.length l = true)
    (s.receive orderData) t →
    t.tasks[s.tasks.length]? = some (.createOrder (.resolved again)) → first.Agrees again
  /-- The call never fails and is always on its way to its return. -/
  returns : ∀ t, (platform env).Reaches (fun _ l => servesWell s.tasks.length l = true)
    (s.receive orderData) t → ∃ u again,
      (platform env).Reaches (fun _ l => servesWell s.tasks.length l = true) t u ∧
      u.tasks[s.tasks.length]? = some (.createOrder (.resolved again))

end State
end CourierPlatform
