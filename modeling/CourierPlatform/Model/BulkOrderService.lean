import CourierPlatform.Model.OrderService

/-! `BulkOrderService.createBulkOrders`. The items run as calls of their own;
this is the call that inserts them, starts them through `runWithConcurrency` and
collects their results. -/
namespace CourierPlatform
open Js

inductive BulkOrder where
  /-- `BulkBatch.create` of `initBatchRecord`. -/
  | initBatchRecord (batchId : String) (orders : List NormalizedCreateOrderRequest)
  /-- `Order.bulkCreate` of `prePersistAllBatchOrders`. -/
  | prePersistAll (batchId : String) (orders : List NormalizedCreateOrderRequest)
  /-- The worker pool, `currentIndex` being the next index to take. -/
  | executing (batchId : String) (orders : List NormalizedCreateOrderRequest) (currentIndex : Nat)
  /-- `batchRecord.update` of `updateBatchRecord`. -/
  | updateBatchRecord (batchId : String) (orders : List NormalizedCreateOrderRequest)
      (results : List BulkOrderItemResult)
  | resolved (response : BulkOrderResponse)
  | rejected (error : Thrown)

namespace BulkOrderService

def createBulkOrders (orders : List NormalizedCreateOrderRequest) (batchId : String) : BulkOrder :=
  .initBatchRecord batchId orders

def initialBatch (batchId : String) (totalOrders : Nat) : BulkBatch where
  batchId := batchId
  totalOrders := totalOrders
  successfulOrders := 0
  failedOrders := 0
  status := .processing
  results := []

def batchRecord (now : Int) (o : NormalizedCreateOrderRequest) : Order where
  orderId := o.orderId
  courierPartner := o.courierPartner
  courierOrderId := none
  awbNumber := none
  status := .pendingDispatch
  retryCount := 0
  rawRequestPayload := o
  rawResponsePayload := none
  failureReason := none
  senderDetails := o.sender
  recipientDetails := o.recipient
  packageDetails := o.packageDetails
  paymentDetails := o.paymentDetails
  serviceType := orNull o.serviceType
  updatedAt := now

theorem batchRecord_eq_pendingOrder (now : Int) (o : NormalizedCreateOrderRequest) :
    batchRecord now o = OrderService.pendingOrder o now := rfl

/-- How often `for (let i = 0; i < effectiveLimit; i++)` of `runWithConcurrency` turns. The limit is an
integer, or `NaN`, which is `none`; then `effectiveLimit` is `NaN` too, and `0 < NaN` is false. -/
def effectiveLimit : (limit : Option Int) → (length : Nat) → Nat
  | some limit, length => (max 1 (min limit length)).toNat
  | none, _ => 0

theorem effectiveLimit_pos (limit : Int) (length : Nat) : 0 < effectiveLimit limit length := by
  change 0 < (max 1 (min limit length)).toNat
  omega

def formatItemErrorResult (orderItem : NormalizedCreateOrderRequest) (error : Thrown) :
    BulkOrderItemResult where
  orderId := orderItem.orderId
  courierPartner := orderItem.courierPartner
  status := .failed
  error := some <|
    match error with
    | .courierError message _ errorCode _ _ _ => ⟨errorCode.text, message, none⟩
    | .appError message _ errorCode details => ⟨errorCode.text, message, details⟩
    | .error message => ⟨"COURIER_ERROR", message, none⟩
    | .value _ => ⟨"COURIER_ERROR", "Failed to process order shipment", none⟩

def itemResult (orderItem : NormalizedCreateOrderRequest) : CreateOrder → Option BulkOrderItemResult
  | .resolved response => some {
      orderId := orderItem.orderId
      courierPartner := orderItem.courierPartner
      status := .success
      awbNumber := some response.awbNumber
      courierOrderId := some response.courierOrderId }
  | .rejected error => some (formatItemErrorResult orderItem error)
  | _ => none

def successfulOrders (results : List BulkOrderItemResult) : Nat :=
  results.countP fun r => r.status = .success || r.status = .skippedIdempotent

def finalStatus (successful failed : Nat) : BulkBatchStatus :=
  if failed = 0 then .completed else if successful = 0 then .failed else .partialSuccess

def finalBatch (batchId : String) (totalOrders : Nat) (results : List BulkOrderItemResult) :
    BulkBatch :=
  let successful := successfulOrders results
  let failed := totalOrders - successful
  ⟨batchId, totalOrders, successful, failed, finalStatus successful failed, results⟩

def response (batchId : String) (totalOrders : Nat) (results : List BulkOrderItemResult) :
    BulkOrderResponse :=
  let successful := successfulOrders results
  ⟨batchId, totalOrders, successful, totalOrders - successful, results⟩

def replaceBatch (batch : BulkBatch) (batches : List BulkBatch) : List BulkBatch :=
  batches.map fun other => if other.batchId = batch.batchId then batch else other

def getBatchStatus (w : World) (batchId : String) : Option BulkBatch :=
  w.batches.find? (·.batchId = batchId)

/-- The awaits of the call itself; the pool is stepped by the system. -/
def step (w : World) : BulkOrder → Answer → Option (World × BulkOrder)
  | .initBatchRecord batchId orders, .ok =>
    some ({ w with batches := w.batches ++ [initialBatch batchId orders.length] },
      .prePersistAll batchId orders)
  | .initBatchRecord .., .dbError error => some (w, .rejected error)
  | .prePersistAll batchId orders, .ok =>
    some (w.bulkCreate (orders.map (batchRecord w.now)), .executing batchId orders 0)
  -- a failing bulk insert is logged and the items go on one by one
  | .prePersistAll batchId orders, .dbError _ => some (w, .executing batchId orders 0)
  | .updateBatchRecord batchId orders results, .ok =>
    some ({ w with batches := replaceBatch (finalBatch batchId orders.length results) w.batches },
      .resolved (response batchId orders.length results))
  | .updateBatchRecord .., .dbError error => some (w, .rejected error)
  | _, _ => none

end BulkOrderService

def BulkOrder.settled : BulkOrder → Bool
  | resolved _ => true
  | rejected _ => true
  | _ => false

end CourierPlatform
