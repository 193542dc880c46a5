import CourierPlatform.Proofs.CallAccounts
import CourierPlatform.Spec.Responses

/-! The records of all batches: what each may say while its call runs and after that. -/
namespace CourierPlatform

def Request.batchId? : Request → Option String
  | createBulkOrders _ batchId => some batchId
  | _ => none

/-- The id of a batch is a UUID that no earlier batch has got. -/
def freshBatchIds (s : State × List Request) : Label → Bool
  | .start (.createBulkOrders _ batchId) => s.2.all (·.batchId? ≠ some batchId)
  | _ => true

namespace BulkBatch

def Open (batch : BulkBatch) : Prop :=
  batch = BulkOrderService.initialBatch batch.batchId batch.totalOrders

structure Final (orders : List NormalizedCreateOrderRequest) (batch : BulkBatch) : Prop where
  results : resultsName orders batch.results
  successful : batch.successfulOrders = batch.results.countP (·.status ≠ .failed)
  failed : batch.failedOrders = batch.results.countP (·.status = .failed)
  ended : batch.status ≠ .processing
  completed : batch.status = .completed ↔ batch.failedOrders = 0
  partialSuccess : batch.status = .partialSuccess ↔ batch.failedOrders ≠ 0 ∧ batch.successfulOrders ≠ 0

def Recorded (requests : List Request) (batch : BulkBatch) : Prop :=
  ∃ orders, .createBulkOrders orders batch.batchId ∈ requests ∧ batch.totalOrders = orders.length ∧
    (batch.Open ∨ batch.Final orders)

/-- The record stays as it is, or it is summed up. -/
def Becomes (batch later : BulkBatch) : Prop :=
  later = batch ∨
    batch.Open ∧ later.batchId = batch.batchId ∧ later.totalOrders = batch.totalOrders ∧
      later.status ≠ .processing

end BulkBatch
end CourierPlatform
