import CourierPlatform.Model.RequestLog

/-! Whose `orderId` a log record carries. -/
namespace CourierPlatform.LoggedState

def Attributed (s : LoggedState) : Prop :=
  ∀ record ∈ s.log, ∀ handling, s.handling record.task = some handling →
    ∀ orderId, record.info.orderId = some orderId → orderId = handling.orderData.orderId

/-- In the request of this task, `createOrder` was called last for an order of the same id. -/
def isLatest (s : LoggedState) (i : Nat) : Bool :=
  match s.handling i with
  | some handling =>
    (s.latest handling.request).map (·.orderId) = some handling.orderData.orderId
  | none => true

/-- What the step logs names its order itself, or is logged for the latest order of the request. -/
def inTurn (d : Deployment) (s : LoggedState) (l : LoggedLabel) : Bool :=
  (s.emitted d l).all fun entry => entry.2.ownOrderId?.any (· ≠ "") || s.isLatest entry.1

end CourierPlatform.LoggedState
