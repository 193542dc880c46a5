import CourierPlatform.Library.Machine
import CourierPlatform.Model.BulkOrderService
import CourierPlatform.Model.CancellationService
import CourierPlatform.Model.ReconciliationWorker
import CourierPlatform.Model.TrackingService

/-! The platform: any number of calls in flight over one database. A label names
the call that moves and how its awaited operation settles, so scripts of labels
are the interleavings. -/
namespace CourierPlatform
open Library

inductive Request where
  | createOrder (orderData : NormalizedCreateOrderRequest)
  | createBulkOrders (orders : List NormalizedCreateOrderRequest) (batchId : String)
  | trackOrder (orderId : String)
  | cancelOrder (orderId : String) (reason : Option String)
  | reconcilePendingOrders

inductive Task where
  | createOrder (call : CreateOrder)
  /-- `processSingleOrderItem` of the item with this index in the bulk call with that number. -/
  | bulkItem (bulk index : Nat) (call : CreateOrder)
  | createBulkOrders (call : BulkOrder)
  | trackOrder (call : TrackOrder)
  | cancelOrder (call : CancelOrder)
  | reconcile (cycle : Reconcile)
  /-- A call of a process that died. -/
  | crashed

def Request.start (env : Env) (now : Int) : Request → Task
  | createOrder orderData => .createOrder (OrderService.createOrder orderData)
  | createBulkOrders orders batchId =>
    .createBulkOrders (BulkOrderService.createBulkOrders orders batchId)
  | trackOrder orderId => .trackOrder (TrackingService.trackOrder orderId)
  | cancelOrder orderId reason => .cancelOrder (CancellationService.cancelOrder orderId reason)
  | reconcilePendingOrders => .reconcile (ReconciliationWorker.reconcilePendingOrders env now)

namespace Task

def settled : Task → Bool
  | createOrder call => call.settled
  | bulkItem _ _ call => call.settled
  | createBulkOrders call => call.settled
  | trackOrder call => call.settled
  | cancelOrder call => call.settled
  | reconcile cycle => cycle.settled
  | crashed => true

def isApi : Task → Bool
  | reconcile _ => false
  | _ => true

/-- A cycle of the worker that has not ended. -/
def runningCycle : Task → Bool
  | reconcile cycle => !cycle.settled
  | _ => false

def step (env : Env) (w : World) : Task → Answer → Option (World × Task)
  | createOrder call, a => (OrderService.step env w call a).map (Prod.map id createOrder)
  | bulkItem bulk index call, a =>
    (OrderService.step env w call a).map (Prod.map id (bulkItem bulk index))
  | createBulkOrders call, a => (BulkOrderService.step w call a).map (Prod.map id createBulkOrders)
  | trackOrder call, a => (TrackingService.step env w call a).map (Prod.map id trackOrder)
  | cancelOrder call, a => (CancellationService.step env w call a).map (Prod.map id cancelOrder)
  | reconcile cycle, a => (ReconciliationWorker.step env w cycle a).map (Prod.map id reconcile)
  | crashed, _ => none

/-- An item of a bulk call that `runWithConcurrency` has started and that is still pending. -/
def pendingItem (bulk : Nat) : Task → Bool
  | bulkItem other _ call => other = bulk && !call.settled
  | _ => false

def itemResult? (bulk index : Nat) (orderItem : NormalizedCreateOrderRequest) :
    Task → Option BulkOrderItemResult
  | bulkItem other k call =>
    if other = bulk ∧ k = index then BulkOrderService.itemResult orderItem call else none
  | _ => none

end Task

structure State where
  world : World
  tasks : List Task

inductive Label where
  /-- A request arrives, or the timer of the worker fires. -/
  | start (request : Request)
  /-- The operation that call `i` awaits settles. -/
  | settle (i : Nat) (answer : Answer)
  /-- A worker of the pool of bulk call `i` takes the next index. -/
  | startItem (i : Nat)
  /-- `Promise.all` of bulk call `i` resolves. -/
  | collect (i : Nat)
  /-- The process that serves these calls dies. -/
  | crash (dead : List Nat)
  | tick (ms : Nat)

namespace State

def init (w : World) : State := ⟨w, []⟩

/-- The results of a bulk call in index order; `none` while an item is pending. -/
def itemResults (s : State) (bulk : Nat) (orders : List NormalizedCreateOrderRequest) :
    Option (List BulkOrderItemResult) :=
  orders.zipIdx.mapM fun item => s.tasks.findSome? (Task.itemResult? bulk item.2 item.1)

def next (env : Env) (s : State) : Label → Option State
  | .start request => some ⟨s.world, s.tasks ++ [request.start env s.world.now]⟩
  | .settle i answer => do
    let task ← s.tasks[i]?
    let (world, task') ← task.step env s.world answer
    some ⟨world, s.tasks.set i task'⟩
  | .startItem i =>
    match s.tasks[i]? with
    | some (.createBulkOrders (.executing batchId orders currentIndex)) =>
      match orders[currentIndex]? with
      | some orderItem =>
        if s.tasks.countP (Task.pendingItem i) <
            BulkOrderService.effectiveLimit env.bulkConcurrencyLimit orders.length then
          some ⟨s.world,
            s.tasks.set i (.createBulkOrders (.executing batchId orders (currentIndex + 1))) ++
              [.bulkItem i currentIndex (OrderService.createOrder orderItem)]⟩
        else none
      | none => none
    | _ => none
  | .collect i =>
    match s.tasks[i]? with
    | some (.createBulkOrders (.executing batchId orders currentIndex)) =>
      if currentIndex < orders.length then none
      else (s.itemResults i orders).map fun results =>
        ⟨s.world, s.tasks.set i (.createBulkOrders (.updateBatchRecord batchId orders results))⟩
    | _ => none
  | .crash dead =>
    some ⟨s.world, s.tasks.mapIdx fun i task => if i ∈ dead ∧ task.isApi then .crashed else task⟩
  | .tick ms => some ⟨{ s.world with now := s.world.now + ms }, s.tasks⟩

end State

def platform (env : Env) : Machine State Label := ⟨State.next env⟩

end CourierPlatform
