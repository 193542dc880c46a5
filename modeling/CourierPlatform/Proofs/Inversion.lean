import CourierPlatform.Model.System

/-! What one settled await can do, stated once for each service. Invariants are
derived from these cases and never unfold a step function. -/
namespace CourierPlatform
open Library

namespace OrderService

inductive Moves (env : Env) (w : World) : CreateOrder → Answer → World → CreateOrder → Prop where
  | answeredFromRow {orderData row} (found : w.findOne orderData.orderId = some row)
      (closed : row.status.isOpen = false) (response : NormalizedCreateOrderResponse) :
      Moves env w (.findOne orderData) .ok w (.resolved response)
  | readOpen {orderData row} (found : w.findOne orderData.orderId = some row)
      (isOpen : row.status.isOpen = true) :
      Moves env w (.findOne orderData) .ok w (.updateExisting orderData row)
  | readNone {orderData} (absent : w.findOne orderData.orderId = none) :
      Moves env w (.findOne orderData) .ok w (.createRow orderData)
  | prePersisted {orderData existing} :
      Moves env w (.updateExisting orderData existing) .ok
        (w.updateOrder env existing (pendingPatch orderData))
        (dispatchWithFailureAudit env orderData (existing.assign w.now (pendingPatch orderData)))
  | inserted {orderData created}
      (inserted : w.createOrder? (pendingOrder orderData w.now) = some created) :
      Moves env w (.createRow orderData) .ok created
        (dispatchWithFailureAudit env orderData (pendingOrder orderData w.now))
  | duplicate {orderData} :
      Moves env w (.createRow orderData) .ok w (.rejected uniqueConstraintError)
  | booked {orderData persisted adapter reply} :
      Moves env w (.createShipment orderData persisted adapter) (.booked reply)
        (w.record (.createShipment adapter orderData (.ok reply)))
        (.saveUpdate orderData reply persisted)
  | refused {orderData persisted adapter error} :
      Moves env w (.createShipment orderData persisted adapter) (.refused error)
        (w.record (.createShipment adapter orderData (.error error)))
        (.updateFailed orderData persisted error)
  | audited {orderData persisted error} :
      Moves env w (.updateFailed orderData persisted error) .ok
        (w.updateOrder env persisted (failedPatch error)) (.rejected error)
  | savedSqlite {orderData reply persisted} (dialect : env.dialect = .sqlite) :
      Moves env w (.saveUpdate orderData reply persisted) .ok
        (w.updateOrder env persisted (createdPatch reply)) (.saveEvent orderData reply persisted)
  | savedPostgres {orderData reply persisted} (dialect : env.dialect = .postgres) :
      Moves env w (.saveUpdate orderData reply persisted) .ok
        ((w.updateOrder env persisted (createdPatch reply)).createEvent
          (initialTracking env orderData reply persisted w.now)) (.resolved reply)
  | eventSaved {orderData reply persisted} :
      Moves env w (.saveEvent orderData reply persisted) .ok
        (w.createEvent (initialTracking env orderData reply persisted w.now)) (.resolved reply)
  | failed {call dbError} (awaits : call.settled = false) (error : Thrown) :
      Moves env w call (.dbError dbError) w (.rejected error)

theorem checkIdempotentResponse_some {row : Order} :
    (checkIdempotentResponse (some row)).isSome = !row.status.isOpen := by
  unfold checkIdempotentResponse ShipmentStatus.isOpen
  cases h : row.status <;> simp [h]

theorem Moves.of_step {env : Env} {w w' : World} {call call' : CreateOrder} {a : Answer}
    (h : step env w call a = some (w', call')) : Moves env w call a w' call' := by
  cases call with
  | findOne orderData =>
    cases a <;> simp only [step, Option.some.injEq, Prod.mk.injEq, reduceCtorEq] at h
    case dbError => obtain ⟨rfl, rfl⟩ := h; exact .failed rfl _
    case ok =>
      obtain ⟨rfl, rfl⟩ := h
      cases found : w.findOne orderData.orderId with
      | none => exact .readNone found
      | some row =>
        have isSome : (checkIdempotentResponse (some row)).isSome = !row.status.isOpen :=
          checkIdempotentResponse_some
        unfold afterFindOne
        cases response : checkIdempotentResponse (some row) with
        | none => exact .readOpen found (by simpa [response] using isSome)
        | some reply => exact .answeredFromRow found (by simpa [response] using isSome) reply
  | updateExisting orderData existing =>
    cases a <;> simp only [step, Option.some.injEq, Prod.mk.injEq, reduceCtorEq] at h
    case dbError => obtain ⟨rfl, rfl⟩ := h; exact .failed rfl _
    case ok => obtain ⟨rfl, rfl⟩ := h; exact .prePersisted
  | createRow orderData =>
    cases a <;> simp only [step, Option.some.injEq, Prod.mk.injEq, reduceCtorEq] at h
    case dbError => obtain ⟨rfl, rfl⟩ := h; exact .failed rfl _
    case ok =>
      split at h
      next created inserted => cases h; exact .inserted inserted
      next => cases h; exact .duplicate
  | createShipment orderData persisted adapter =>
    cases a <;> simp only [step, Option.some.injEq, Prod.mk.injEq, reduceCtorEq] at h
    case booked => obtain ⟨rfl, rfl⟩ := h; exact .booked
    case refused => obtain ⟨rfl, rfl⟩ := h; exact .refused
  | updateFailed orderData persisted error =>
    cases a <;> simp only [step, Option.some.injEq, Prod.mk.injEq, reduceCtorEq] at h
    case dbError => obtain ⟨rfl, rfl⟩ := h; exact .failed rfl _
    case ok => obtain ⟨rfl, rfl⟩ := h; exact .audited
  | saveUpdate orderData reply persisted =>
    cases a <;> simp only [step, Option.some.injEq, Prod.mk.injEq, reduceCtorEq] at h
    case dbError => obtain ⟨rfl, rfl⟩ := h; exact .failed rfl _
    case ok =>
      cases dialect : env.dialect <;> simp only [dialect, Option.some.injEq, Prod.mk.injEq] at h
      case sqlite => obtain ⟨rfl, rfl⟩ := h; exact .savedSqlite dialect
      case postgres => obtain ⟨rfl, rfl⟩ := h; exact .savedPostgres dialect
  | saveEvent orderData reply persisted =>
    cases a <;> simp only [step, Option.some.injEq, Prod.mk.injEq, reduceCtorEq] at h
    case dbError => obtain ⟨rfl, rfl⟩ := h; exact .failed rfl _
    case ok => obtain ⟨rfl, rfl⟩ := h; exact .eventSaved
  | resolved response => cases a <;> simp [step] at h
  | rejected error => cases a <;> simp [step] at h

theorem dispatch_cases (env : Env) (orderData : NormalizedCreateOrderRequest)
    (persisted : Order) :
    (∃ unknown, dispatchWithFailureAudit env orderData persisted = .rejected unknown) ∨
      ∃ adapter, env.registry.get env.js orderData.courierPartner = .ok adapter ∧
        dispatchWithFailureAudit env orderData persisted =
          .createShipment orderData persisted adapter := by
  unfold dispatchWithFailureAudit
  cases env.registry.get env.js orderData.courierPartner with
  | error unknown => exact .inl ⟨unknown, rfl⟩
  | ok adapter => exact .inr ⟨adapter, rfl, rfl⟩

end OrderService

namespace ReconciliationWorker

inductive Moves (env : Env) (w : World) : Reconcile → Answer → World → Reconcile → Prop where
  | selected {staleTimestamp orderIds}
      (result : isResult env w staleTimestamp orderIds = true) :
      Moves env w (.findAll staleTimestamp) (.rows orderIds) w
        (nextOrder env 0 (orderIds.filterMap w.findOne))
  | unsupported {order nextRetry rest count} :
      Moves env w (.updateUnsupported order nextRetry rest count) .ok
        (w.updateOrder env order (unsupportedPatch order nextRetry)) (nextOrder env count rest)
  | unsupportedLost {order nextRetry rest count} (error : Thrown) :
      Moves env w (.updateUnsupported order nextRetry rest count) (.dbError error) w
        (.updateCaught order nextRetry error.message rest count)
  | booked {order nextRetry adapter rest count reply} :
      Moves env w (.createShipment order nextRetry adapter rest count) (.booked reply)
        (w.record (.createShipment adapter order.rawRequestPayload (.ok reply)))
        (.updateCreated order nextRetry reply rest count)
  | refused {order nextRetry adapter rest count error} :
      Moves env w (.createShipment order nextRetry adapter rest count) (.refused error)
        (w.record (.createShipment adapter order.rawRequestPayload (.error error)))
        (.updateCaught order nextRetry error.message rest count)
  | recorded {order nextRetry reply rest count} :
      Moves env w (.updateCreated order nextRetry reply rest count) .ok
        (w.updateOrder env order (createdPatch reply nextRetry))
        (.createEvent (order.assign w.now (createdPatch reply nextRetry)) nextRetry reply rest
          count)
  | recordLost {order nextRetry reply rest count} (error : Thrown) :
      Moves env w (.updateCreated order nextRetry reply rest count) (.dbError error) w
        (.updateCaught order nextRetry error.message rest count)
  | recovered {order nextRetry reply rest count} :
      Moves env w (.createEvent order nextRetry reply rest count) .ok
        (w.createEvent (recoveredEvent env order reply w.now)) (nextOrder env (count + 1) rest)
  | eventLost {order nextRetry reply rest count} (error : Thrown) :
      Moves env w (.createEvent order nextRetry reply rest count) (.dbError error) w
        (.updateCaught order nextRetry error.message rest count)
  | caught {order nextRetry errorMessage rest count} :
      Moves env w (.updateCaught order nextRetry errorMessage rest count) .ok
        (w.updateOrder env order (caughtPatch env nextRetry errorMessage))
        (nextOrder env count rest)
  | aborted {cycle error} (awaits : cycle.settled = false) :
      Moves env w cycle (.dbError error) w (.rejected error)

theorem Moves.of_step {env : Env} {w w' : World} {cycle cycle' : Reconcile} {a : Answer}
    (h : step env w cycle a = some (w', cycle')) : Moves env w cycle a w' cycle' := by
  cases cycle with
  | findAll staleTimestamp =>
    cases a <;> simp only [step, Option.some.injEq, Prod.mk.injEq, reduceCtorEq] at h
    case dbError => obtain ⟨rfl, rfl⟩ := h; exact .aborted rfl
    case rows orderIds =>
      split at h
      next result => cases h; exact .selected result
      next => contradiction
  | updateUnsupported order nextRetry rest count =>
    cases a <;> simp only [step, Option.some.injEq, Prod.mk.injEq, reduceCtorEq] at h
    case dbError => obtain ⟨rfl, rfl⟩ := h; exact .unsupportedLost _
    case ok => obtain ⟨rfl, rfl⟩ := h; exact .unsupported
  | createShipment order nextRetry adapter rest count =>
    cases a <;> simp only [step, Option.some.injEq, Prod.mk.injEq, reduceCtorEq] at h
    case booked => obtain ⟨rfl, rfl⟩ := h; exact .booked
    case refused => obtain ⟨rfl, rfl⟩ := h; exact .refused
  | updateCreated order nextRetry reply rest count =>
    cases a <;> simp only [step, Option.some.injEq, Prod.mk.injEq, reduceCtorEq] at h
    case dbError => obtain ⟨rfl, rfl⟩ := h; exact .recordLost _
    case ok => obtain ⟨rfl, rfl⟩ := h; exact .recorded
  | createEvent order nextRetry reply rest count =>
    cases a <;> simp only [step, Option.some.injEq, Prod.mk.injEq, reduceCtorEq] at h
    case dbError => obtain ⟨rfl, rfl⟩ := h; exact .eventLost _
    case ok => obtain ⟨rfl, rfl⟩ := h; exact .recovered
  | updateCaught order nextRetry errorMessage rest count =>
    cases a <;> simp only [step, Option.some.injEq, Prod.mk.injEq, reduceCtorEq] at h
    case dbError => obtain ⟨rfl, rfl⟩ := h; exact .aborted rfl
    case ok => obtain ⟨rfl, rfl⟩ := h; exact .caught
  | resolved count => cases a <;> simp [step] at h
  | rejected error => cases a <;> simp [step] at h

theorem reconcileSingleOrder_cases (env : Env) (order : Order) (rest : List Order)
    (count : Nat) :
    (∃ adapter, env.registry.get env.js order.courierPartner = .ok adapter ∧
      reconcileSingleOrder env order rest count =
        .createShipment order (order.retryCount + 1) adapter rest count) ∨
      reconcileSingleOrder env order rest count =
        .updateUnsupported order (order.retryCount + 1) rest count := by
  unfold reconcileSingleOrder
  rw [CourierRegistry.has_eq_isOk]
  cases found : env.registry.get env.js order.courierPartner with
  | error unknown => exact .inr rfl
  | ok adapter => exact .inl ⟨adapter, rfl, rfl⟩

end ReconciliationWorker

namespace TrackingService

inductive Moves (env : Env) (w : World) : TrackOrder → Answer → World → TrackOrder → Prop where
  | read {orderId row awbNumber adapter} (found : w.findOne orderId = some row)
      (awb : row.awbNumber = some awbNumber) (nonempty : awbNumber ≠ "")
      (registered : env.registry.get env.js row.courierPartner = .ok adapter) :
      Moves env w (.fetchOrder orderId) .ok w (.trackShipment row awbNumber adapter)
  | declined {orderId error} (why : afterFetch env orderId (w.findOne orderId) = .rejected error) :
      Moves env w (.fetchOrder orderId) .ok w (.rejected error)
  | tracked {order awbNumber adapter reply} :
      Moves env w (.trackShipment order awbNumber adapter) (.tracked reply)
        (w.record (.trackShipment adapter awbNumber order.orderId (.ok reply)))
        (updateOrderStatusIfChanged order reply)
  | refused {order awbNumber adapter error} :
      Moves env w (.trackShipment order awbNumber adapter) (.refused error)
        (w.record (.trackShipment adapter awbNumber order.orderId (.error error)))
        (.rejected error)
  | statusUpdated {order reply} :
      Moves env w (.updateStatus order reply) .ok (w.updateOrder env order (statusPatch reply))
        (nextEvent (order.assign w.now (statusPatch reply)) reply reply.trackingHistory)
  | eventFound {order reply event rest} (recorded : w.events.any (sameEvent order event) = true) :
      Moves env w (.findEvent order reply event rest) .ok w (nextEvent order reply rest)
  | eventMissing {order reply event rest} (missing : ¬ w.events.any (sameEvent order event) = true) :
      Moves env w (.findEvent order reply event rest) .ok w (.createEvent order reply event rest)
  | eventAdded {order reply event rest} :
      Moves env w (.createEvent order reply event rest) .ok
        (w.createEvent (newEvent order reply event)) (nextEvent order reply rest)
  | failed {call error} (awaits : call.settled = false) :
      Moves env w call (.dbError error) w (.rejected error)

theorem orNull_eq_some {value : Option String} {text : String} (h : orNull value = some text) :
    value = some text ∧ text ≠ "" := by
  simpa [orNull, Option.filter_eq_some_iff] using h

theorem Moves.of_step {env : Env} {w w' : World} {call call' : TrackOrder} {a : Answer}
    (h : step env w call a = some (w', call')) : Moves env w call a w' call' := by
  cases call with
  | fetchOrder orderId =>
    cases a <;> simp only [step, Option.some.injEq, Prod.mk.injEq, reduceCtorEq] at h
    case dbError => obtain ⟨rfl, rfl⟩ := h; exact .failed rfl
    case ok =>
      obtain ⟨rfl, rfl⟩ := h
      cases found : w.findOne orderId with
      | none => exact .declined (by rw [found]; rfl)
      | some row =>
        cases awb : orNull row.awbNumber with
        | none =>
          simp only [afterFetch, awb]
          exact .declined (by simp only [found, afterFetch, awb])
        | some awbNumber =>
          obtain ⟨stored, nonempty⟩ := orNull_eq_some awb
          cases registered : env.registry.get env.js row.courierPartner with
          | error unknown =>
            simp only [afterFetch, awb, registered]
            exact .declined (by simp only [found, afterFetch, awb, registered])
          | ok adapter =>
            simp only [afterFetch, awb, registered]
            exact .read found stored nonempty registered
  | trackShipment order awbNumber adapter =>
    cases a <;> simp only [step, Option.some.injEq, Prod.mk.injEq, reduceCtorEq] at h
    case tracked => obtain ⟨rfl, rfl⟩ := h; exact .tracked
    case refused => obtain ⟨rfl, rfl⟩ := h; exact .refused
  | updateStatus order reply =>
    cases a <;> simp only [step, Option.some.injEq, Prod.mk.injEq, reduceCtorEq] at h
    case dbError => obtain ⟨rfl, rfl⟩ := h; exact .failed rfl
    case ok => obtain ⟨rfl, rfl⟩ := h; exact .statusUpdated
  | findEvent order reply event rest =>
    cases a <;> simp only [step, Option.some.injEq, Prod.mk.injEq, reduceCtorEq] at h
    case dbError => obtain ⟨rfl, rfl⟩ := h; exact .failed rfl
    case ok =>
      obtain ⟨rfl, rfl⟩ := h
      split
      next recorded => exact .eventFound recorded
      next missing => exact .eventMissing missing
  | createEvent order reply event rest =>
    cases a <;> simp only [step, Option.some.injEq, Prod.mk.injEq, reduceCtorEq] at h
    case dbError => obtain ⟨rfl, rfl⟩ := h; exact .failed rfl
    case ok => obtain ⟨rfl, rfl⟩ := h; exact .eventAdded
  | resolved response => cases a <;> simp [step] at h
  | rejected error => cases a <;> simp [step] at h

end TrackingService

namespace CancellationService

inductive Moves (env : Env) (w : World) : CancelOrder → Answer → World → CancelOrder → Prop where
  | read {orderId reason row adapter} (found : w.findOne orderId = some row)
      (notCancelled : row.status ≠ .cancelled) (notDelivered : row.status ≠ .delivered)
      (registered : env.registry.get env.js row.courierPartner = .ok adapter) :
      Moves env w (.fetchOrder orderId reason) .ok w (.cancelShipment row adapter reason)
  | alreadyCancelled {orderId reason} (response : NormalizedCancelResponse) :
      Moves env w (.fetchOrder orderId reason) .ok w (.resolved response)
  | declined {orderId reason} (error : Thrown) :
      Moves env w (.fetchOrder orderId reason) .ok w (.rejected error)
  | agreed {order adapter reason reply} :
      Moves env w (.cancelShipment order adapter reason) (.cancelled reply)
        (w.record (.cancelShipment adapter (orDefault order.awbNumber "") order.orderId reason
          (.ok reply))) (.updateCancelled order reply reason)
  | refused {order adapter reason error} :
      Moves env w (.cancelShipment order adapter reason) (.refused error)
        (w.record (.cancelShipment adapter (orDefault order.awbNumber "") order.orderId reason
          (.error error))) (.rejected error)
  | committed {order reply reason} :
      Moves env w (.updateCancelled order reply reason) .ok
        (w.updateOrder env order cancelledPatch)
        (.createEvent (order.assign w.now cancelledPatch) reply reason)
  | eventAdded {order reply reason} :
      Moves env w (.createEvent order reply reason) .ok
        (w.createEvent (cancellationEvent order reply reason w.now)) (.resolved reply)
  | failed {call error} (awaits : call.settled = false) :
      Moves env w call (.dbError error) w (.rejected error)

theorem Moves.of_step {env : Env} {w w' : World} {call call' : CancelOrder} {a : Answer}
    (h : step env w call a = some (w', call')) : Moves env w call a w' call' := by
  cases call with
  | fetchOrder orderId reason =>
    cases a <;> simp only [step, Option.some.injEq, Prod.mk.injEq, reduceCtorEq] at h
    case dbError => obtain ⟨rfl, rfl⟩ := h; exact .failed rfl
    case ok =>
      obtain ⟨rfl, rfl⟩ := h
      unfold afterFetch checkIfAlreadyCancelled validateCancellableStatus
      cases found : w.findOne orderId with
      | none => exact .declined _
      | some row =>
        by_cases cancelled : row.status = .cancelled
        · simpa [cancelled] using Moves.alreadyCancelled _
        by_cases delivered : row.status = .delivered
        · simpa [delivered] using Moves.declined _
        cases registered : env.registry.get env.js row.courierPartner with
        | error unknown => simpa [cancelled, delivered, registered] using Moves.declined _
        | ok adapter =>
          simpa [cancelled, delivered, registered] using
            Moves.read found cancelled delivered registered
  | cancelShipment order adapter reason =>
    cases a <;> simp only [step, Option.some.injEq, Prod.mk.injEq, reduceCtorEq] at h
    case cancelled => obtain ⟨rfl, rfl⟩ := h; exact .agreed
    case refused => obtain ⟨rfl, rfl⟩ := h; exact .refused
  | updateCancelled order reply reason =>
    cases a <;> simp only [step, Option.some.injEq, Prod.mk.injEq, reduceCtorEq] at h
    case dbError => obtain ⟨rfl, rfl⟩ := h; exact .failed rfl
    case ok => obtain ⟨rfl, rfl⟩ := h; exact .committed
  | createEvent order reply reason =>
    cases a <;> simp only [step, Option.some.injEq, Prod.mk.injEq, reduceCtorEq] at h
    case dbError => obtain ⟨rfl, rfl⟩ := h; exact .failed rfl
    case ok => obtain ⟨rfl, rfl⟩ := h; exact .eventAdded
  | resolved response => cases a <;> simp [step] at h
  | rejected error => cases a <;> simp [step] at h

end CancellationService

namespace BulkOrderService

inductive Moves (w : World) : BulkOrder → Answer → World → BulkOrder → Prop where
  | batchCreated {batchId orders} :
      Moves w (.initBatchRecord batchId orders) .ok
        { w with batches := w.batches ++ [initialBatch batchId orders.length] }
        (.prePersistAll batchId orders)
  | prePersisted {batchId orders} :
      Moves w (.prePersistAll batchId orders) .ok (w.bulkCreate (orders.map (batchRecord w.now)))
        (.executing batchId orders 0)
  | notPrePersisted {batchId orders error} :
      Moves w (.prePersistAll batchId orders) (.dbError error) w (.executing batchId orders 0)
  | summarized {batchId orders results} :
      Moves w (.updateBatchRecord batchId orders results) .ok
        { w with batches :=
            replaceBatch (finalBatch batchId orders.length results) w.batches }
        (.resolved (response batchId orders.length results))
  | failed {call error} (awaits : call.settled = false) :
      Moves w call (.dbError error) w (.rejected error)

theorem Moves.of_step {w w' : World} {call call' : BulkOrder} {a : Answer}
    (h : step w call a = some (w', call')) : Moves w call a w' call' := by
  cases call with
  | initBatchRecord batchId orders =>
    cases a <;> simp only [step, Option.some.injEq, Prod.mk.injEq, reduceCtorEq] at h
    case dbError => obtain ⟨rfl, rfl⟩ := h; exact .failed rfl
    case ok => obtain ⟨rfl, rfl⟩ := h; exact .batchCreated
  | prePersistAll batchId orders =>
    cases a <;> simp only [step, Option.some.injEq, Prod.mk.injEq, reduceCtorEq] at h
    case dbError => obtain ⟨rfl, rfl⟩ := h; exact .notPrePersisted
    case ok => obtain ⟨rfl, rfl⟩ := h; exact .prePersisted
  | executing batchId orders currentIndex => cases a <;> simp [step] at h
  | updateBatchRecord batchId orders results =>
    cases a <;> simp only [step, Option.some.injEq, Prod.mk.injEq, reduceCtorEq] at h
    case dbError => obtain ⟨rfl, rfl⟩ := h; exact .failed rfl
    case ok => obtain ⟨rfl, rfl⟩ := h; exact .summarized
  | resolved response => cases a <;> simp [step] at h
  | rejected error => cases a <;> simp [step] at h

end BulkOrderService

end CourierPlatform
