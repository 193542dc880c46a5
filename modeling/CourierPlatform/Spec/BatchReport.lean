import CourierPlatform.Spec.Schedules

/-! One batch among other traffic: what its call reports and what its record says in the meantime. The
batch is named by the number of its call. -/
namespace CourierPlatform

namespace Task

def isItem (i k : Nat) : Task → Bool
  | bulkItem bulk index _ => bulk = i && index = k
  | _ => false

def itemOf (i : Nat) : Task → Bool
  | bulkItem bulk _ _ => bulk = i
  | _ => false

def batchId? : Task → Option String
  | createBulkOrders (.initBatchRecord batchId _) => some batchId
  | createBulkOrders (.prePersistAll batchId _) => some batchId
  | createBulkOrders (.executing batchId _ _) => some batchId
  | createBulkOrders (.updateBatchRecord batchId _ _) => some batchId
  | _ => none

def writesRecord : Task → Bool
  | createBulkOrders (.initBatchRecord ..) => true
  | createBulkOrders (.updateBatchRecord ..) => true
  | _ => false

end Task

namespace State

variable (i : Nat) (s : State)

/-- The call is the batch's own or one of its items'. -/
def ownCall (j : Nat) : Bool := j = i || s.tasks[j]?.any (Task.itemOf i)

def ownStep : Label → Bool
  | .settle j _ => s.ownCall i j
  | .startItem j => j = i
  | .collect j => j = i
  | _ => false

def noteOwn (s : State) (l : Label) (_ : State) (own : Nat) : Nat :=
  own + (s.ownStep i l).toNat

/-- The writes of the batch to its record succeed, its process lives, and its id is given to no other
batch. -/
def keepsBatch (batchId : String) : Label → Bool
  | .settle j (.dbError _) => !(j = i && s.tasks[j]?.any Task.writesRecord)
  | .start (.createBulkOrders _ other) => other ≠ batchId
  | .crash dead => dead.all fun j => !s.ownCall i j
  | _ => true

def freshBatch (batchId : String) : Bool :=
  s.world.batches.all (·.batchId ≠ batchId) && s.tasks.all (·.batchId? ≠ some batchId)

def ItemResolved (k : Nat) : Prop := ∃ response, .bulkItem i k (.resolved response) ∈ s.tasks

def recordsOf (batchId : String) : List BulkBatch :=
  s.world.batches.filter (·.batchId = batchId)

/-- A response that is right about its batch, and a record that says the same. -/
structure BatchReported (batchId : String) (orders : List NormalizedCreateOrderRequest)
    (response : BulkOrderResponse) : Prop where
  results : response.results.length = orders.length
  item : ∀ (k : Nat) (orderItem : NormalizedCreateOrderRequest), orders[k]? = some orderItem →
    s.tasks.countP (Task.isItem i k) = 1 ∧
      ∃ result, response.results[k]? = some result ∧ result.orderId = orderItem.orderId ∧
        result.courierPartner = orderItem.courierPartner ∧
        (result.status = .success ↔ s.ItemResolved i k)
  counts : response.totalOrders = orders.length ∧
    response.successfulOrders + response.failedOrders = response.totalOrders ∧
    response.successfulOrders = response.results.countP (·.status = .success)
  record : ∃ status, s.recordsOf batchId = [⟨batchId, response.totalOrders,
      response.successfulOrders, response.failedOrders, status, response.results⟩] ∧
    (status = .completed ↔ response.failedOrders = 0) ∧
    (status = .failed ↔ response.successfulOrders = 0) ∧
    (status = .partialSuccess ↔ response.failedOrders ≠ 0 ∧ response.successfulOrders ≠ 0)

structure BatchKept (batchId : String) (orders : List NormalizedCreateOrderRequest) : Prop where
  unrejected : ∀ error, s.tasks[i]? ≠ some (.createBulkOrders (.rejected error))
  resolved : ∀ response, s.tasks[i]? = some (.createBulkOrders (.resolved response)) →
    response.batchId = batchId ∧ s.BatchReported i batchId orders response
  processing : (∀ response, s.tasks[i]? ≠ some (.createBulkOrders (.resolved response))) →
    s.recordsOf batchId = [] ∧ s.tasks[i]? = some (.createBulkOrders (.initBatchRecord batchId orders)) ∨
      s.recordsOf batchId = [⟨batchId, orders.length, 0, 0, .processing, []⟩]

end State

/-- What an item's error says of the value thrown: an `AppError` has a code and details, any other
`Error` only a message. -/
def BulkItemError.Reports (e : BulkItemError) : Thrown → Prop
  | .courierError message _ errorCode _ _ _ =>
    e.code = errorCode.text ∧ e.message = message ∧ e.details = none
  | .appError message _ errorCode details =>
    e.code = errorCode.text ∧ e.message = message ∧ e.details = details
  | .error message => e.code = "COURIER_ERROR" ∧ e.message = message ∧ e.details = none
  | .value _ =>
    e.code = "COURIER_ERROR" ∧ e.message = "Failed to process order shipment" ∧ e.details = none

structure BulkOrderItemResult.Reports (result : BulkOrderItemResult)
    (orderItem : NormalizedCreateOrderRequest) (call : CreateOrder) : Prop where
  orderId : result.orderId = orderItem.orderId
  courierPartner : result.courierPartner = orderItem.courierPartner
  ended : (∃ response, call = .resolved response) ∨ ∃ error, call = .rejected error
  resolved : ∀ response, call = .resolved response →
    result.status = .success ∧ result.awbNumber = some response.awbNumber ∧
      result.courierOrderId = some response.courierOrderId ∧ result.error = none
  rejected : ∀ error, call = .rejected error →
    result.status = .failed ∧ result.awbNumber = none ∧ result.courierOrderId = none ∧
      ∃ e, result.error = some e ∧ e.Reports error

end CourierPlatform
