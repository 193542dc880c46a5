import CourierPlatform.Model.System
import CourierPlatform.Model.UrbaneBoltMapper

/-! `cancelOrder` calls for one order while nothing else goes on, and what they record. -/
namespace CourierPlatform
open Js UrbaneBoltMapper

def World.MarkedCancelled (w : World) (x : String) : Prop :=
  ∃ row, w.findOne x = some row ∧ row.status = .cancelled

theorem World.markedCancelled_iff (w : World) (x : String) :
    w.MarkedCancelled x ↔ (w.findOne x).any (·.status = .cancelled) = true := by
  simp [MarkedCancelled, Option.any_eq_true]

instance (w : World) (x : String) : Decidable (w.MarkedCancelled x) :=
  decidable_of_iff _ (w.markedCancelled_iff x).symm

def World.HasCancellation (w : World) (x : String) : Prop :=
  ∃ event ∈ w.events, event.orderId = x ∧ event.status = .cancelled

instance (w : World) (x : String) : Decidable (w.HasCancellation x) :=
  inferInstanceAs (Decidable (∃ event ∈ w.events, _))

def Task.halfCancelled : Task → Bool
  | cancelOrder (.createEvent ..) => true
  | _ => false

namespace State

def firstCancel (x : String) (s : State) : Label → Prop
  | .start (.cancelOrder orderId _) => orderId = x ∧ s.tasks = []
  | .settle _ _ => True
  | .crash _ => True
  | .tick _ => True
  | _ => False

instance (x : String) (s : State) : ∀ l, Decidable (s.firstCancel x l)
  | .start (.cancelOrder _ _) => inferInstanceAs (Decidable (_ ∧ _))
  | .start (.createOrder _) => .isFalse id
  | .start (.createBulkOrders _ _) => .isFalse id
  | .start (.trackOrder _) => .isFalse id
  | .start .reconcilePendingOrders => .isFalse id
  | .settle _ _ => .isTrue trivial
  | .startItem _ => .isFalse id
  | .collect _ => .isFalse id
  | .crash _ => .isTrue trivial
  | .tick _ => .isTrue trivial

def laterCancels (x : String) : Label → Prop
  | .start (.cancelOrder orderId _) => orderId = x
  | .settle _ (.dbError _) => False
  | .settle _ _ => True
  | .tick _ => True
  | _ => False

instance (x : String) : ∀ l, Decidable (laterCancels x l)
  | .start (.cancelOrder orderId _) => inferInstanceAs (Decidable (orderId = x))
  | .start (.createOrder _) => .isFalse id
  | .start (.createBulkOrders _ _) => .isFalse id
  | .start (.trackOrder _) => .isFalse id
  | .start .reconcilePendingOrders => .isFalse id
  | .settle _ (.dbError _) => .isFalse id
  | .settle _ .ok => .isTrue trivial
  | .settle _ (.rows _) => .isTrue trivial
  | .settle _ (.booked _) => .isTrue trivial
  | .settle _ (.tracked _) => .isTrue trivial
  | .settle _ (.cancelled _) => .isTrue trivial
  | .settle _ (.refused _) => .isTrue trivial
  | .startItem _ => .isFalse id
  | .collect _ => .isFalse id
  | .crash _ => .isFalse id
  | .tick _ => .isTrue trivial

def sparesRecord (s : State) : Label → Bool
  | .settle i (.dbError _) => !(s.tasks[i]?).any Task.halfCancelled
  | .crash dead => dead.all fun i => !(s.tasks[i]?).any Task.halfCancelled
  | _ => true

end State

def refuses (body : Json) : Bool := body.get? "success" = some (.bool false)

/-- How the operation that a call awaits may settle when UrbaneBolt answers the cancel call with
`body`. -/
def CancelOrder.SettlesWith (body : Json) (now : Int) : CancelOrder → Answer → Prop
  | .cancelShipment order _ _, a => a = .cancelled
      (toNormalizedCancelResponse now body (orDefault order.awbNumber "") (some order.orderId))
  | _, a => a = .ok ∨ ∃ error, a = .dbError error

/-- The order is not set to another status, and no event is added. -/
structure World.Unrecorded (x : String) (before after : World) : Prop where
  row : (after.findOne x).map (·.status) = (before.findOne x).map (·.status)
  events : after.events = before.events

def State.cancelsWith (x : String) (body : Json) (s : State) : Label → Prop
  | .start (.cancelOrder orderId _) => orderId = x ∧ s.tasks = []
  | .settle i a => ∃ call, s.tasks[i]? = some (.cancelOrder call) ∧
      call.SettlesWith body s.world.now a
  | .crash _ => True
  | .tick _ => True
  | _ => False

end CourierPlatform
