import CourierPlatform.Model.System

/-! The families of runs that the properties speak about, and the platform as it is
configured by default. -/
namespace CourierPlatform

/-- Runs in which a worker cycle begins only when none is running. -/
def State.singleCycle (s : State) : Label → Bool
  | .start .reconcilePendingOrders => !s.tasks.any Task.runningCycle
  | _ => true

/-- Runs of `createOrder` calls, single or in bulk, and of one worker cycle at a time, in
which no database operation fails and no process dies. -/
def State.dispatching (s : State) : Label → Bool
  | .start (.trackOrder _) => false
  | .start (.cancelOrder _ _) => false
  | .start .reconcilePendingOrders => !s.tasks.any Task.runningCycle
  | .settle _ (.dbError _) => false
  | .crash _ => false
  | _ => true

/-- The same runs with crashes of the API process at any point. -/
def State.dispatchingWithCrashes (s : State) : Label → Bool
  | .crash _ => true
  | l => s.dispatching l

theorem State.dispatchingWithCrashes_of_dispatching {s : State} {l : Label}
    (h : s.dispatching l = true) : s.dispatchingWithCrashes l = true := by
  cases l with
  | crash => rfl
  | _ => exact h

/-- Runs of `createOrder` calls, one `cancelOrder` call and one worker cycle, in which no
database operation fails and no process dies. -/
def State.cancelling (s : State) : Label → Bool
  | .start (.trackOrder _) => false
  | .start (.createBulkOrders _ _) => false
  | .start (.cancelOrder _ _) => s.tasks.all fun | .cancelOrder _ => false | _ => true
  | .start .reconcilePendingOrders => s.tasks.all fun | .reconcile _ => false | _ => true
  | .settle _ (.dbError _) => false
  | .crash _ => false
  | _ => true

def Label.untracked : Label → Bool
  | start (.trackOrder _) => false
  | _ => true

def Task.bulkResponse? : Task → Option BulkOrderResponse
  | createBulkOrders (.resolved response) => some response
  | _ => none

def Task.recovered? : Task → Option Nat
  | reconcile (.resolved count) => some count
  | _ => none

theorem Task.eq_of_bulkResponse? {task : Task} {response : BulkOrderResponse}
    (h : task.bulkResponse? = some response) : task = .createBulkOrders (.resolved response) := by
  unfold bulkResponse? at h
  split at h
  · cases h
    rfl
  · contradiction

theorem Task.eq_of_recovered? {task : Task} {count : Nat} (h : task.recovered? = some count) :
    task = .reconcile (.resolved count) := by
  unfold recovered? at h
  split at h
  · cases h
    rfl
  · contradiction

def State.idle (s : State) : Bool := s.tasks.all Task.settled

/-- Runs in which single operations execute one at a time, each to its end. -/
def State.sequential (s : State) : Label → Bool
  | .start (.createBulkOrders _ _) => false
  | .start _ => s.idle
  | .settle _ _ => true
  | .tick _ => true
  | _ => false

def State.workerOnly (s : State) : Label → Bool
  | .start .reconcilePendingOrders => s.idle
  | .settle _ _ => true
  | .tick _ => true
  | _ => false

theorem State.sequential_of_workerOnly {s : State} {l : Label} (h : s.workerOnly l = true) :
    s.sequential l = true := by
  cases l with
  | start request => cases request <;> first | exact h | exact Bool.noConfusion h
  | _ => exact h

def Label.faultless : Label → Bool
  | settle _ (.dbError _) => false
  | crash _ => false
  | _ => true

def State.sequentialFaultless (s : State) (l : Label) : Prop :=
  s.sequential l = true ∧ l.faultless = true

instance (s : State) (l : Label) : Decidable (s.sequentialFaultless l) :=
  inferInstanceAs (Decidable (_ ∧ _))

def defaultEnv (dialect : DatabaseDialect) (updateMode : UpdateMode) : Env where
  js := .ascii
  registry := initAdapters .ascii
  dialect
  updateMode
  maxRetryAttempts := 3
  staleThresholdMs := 60000
  bulkConcurrencyLimit := 10

abbrev production : Library.Machine State Label := platform (defaultEnv .postgres .named)

def parcel (orderId courierPartner : String) : NormalizedCreateOrderRequest where
  orderId
  courierPartner
  sender := ⟨"Acme", "9000000001", none, "1 Mill Road", "Pune", "MH", "411001", none, none⟩
  recipient := ⟨"Ravi", "9000000002", none, "2 Lake Road", "Delhi", "DL", "110001", none, none⟩
  packageDetails := ⟨1, 10, 10, 10, 1, "Books"⟩
  paymentDetails := ⟨.prepaid, 0, 100⟩

def bookingReply (orderData : NormalizedCreateOrderRequest) (awbNumber : String) :
    NormalizedCreateOrderResponse where
  orderId := orderData.orderId
  courierPartner := orderData.courierPartner
  courierOrderId := orderData.orderId
  awbNumber
  status := .created
  rawResponse := some (.object [("success", .bool true), ("waybill", .string awbNumber),
    ("booking_reference", .string orderData.orderId)])
  rawRequest := orderData

def trackingReply (orderId awbNumber : String) (status : ShipmentStatus) :
    NormalizedTrackingResponse where
  orderId
  courierPartner := "urbanebolt"
  awbNumber
  status
  currentStatusDescription := ""
  trackingHistory := []
  rawResponse := .object [("waybill", .string awbNumber)]

def cancelReply (orderId : String) : NormalizedCancelResponse where
  orderId
  courierPartner := "mock"
  awbNumber := ""
  status := .cancelled
  cancelledAt := 0
  message := .string "Shipment cancelled"
  rawResponse := some (.object [("provider", .string "MockCourier"),
    ("cancellation_status", .string "CONFIRMED")])

end CourierPlatform
