import CourierPlatform.Proofs.Steps

/-! The instances that calls in flight carry, and what is true of every one of
them: a dispatch path only ever carries the row of its own order. -/
namespace CourierPlatform
open Library

/-- Where a call stands with an order whose instance it will still write. -/
inductive Stage where
  /-- Selected by the worker's query, not yet begun. -/
  | waiting
  /-- Before the update that pre-persists a row that exists. -/
  | updating
  | dispatching
  | answered (reply : NormalizedCreateOrderResponse)
  /-- Before the update that writes the attempt off. -/
  | failing
  /-- The worker has committed `CREATED`, but not yet the event. -/
  | recorded

/-- The order counts as claimed until the booking is written. -/
def Stage.claims : Stage → Bool
  | recorded => false
  | _ => true

def claimOf (hold : Option (Stage × Order)) : Option Stage :=
  (hold.map Prod.fst).filter Stage.claims

def CreateOrder.hold? : CreateOrder → Option (Stage × Order)
  | updateExisting _ existingOrder => some (.updating, existingOrder)
  | createShipment _ persistedOrder _ => some (.dispatching, persistedOrder)
  | updateFailed _ persistedOrder _ => some (.failing, persistedOrder)
  | saveUpdate _ courierResponse persistedOrder => some (.answered courierResponse, persistedOrder)
  | _ => none

def Reconcile.holds : Reconcile → List (Stage × Order)
  | updateUnsupported order _ rest _ => (.failing, order) :: rest.map (Prod.mk .waiting)
  | createShipment order _ _ rest _ => (.dispatching, order) :: rest.map (Prod.mk .waiting)
  | updateCreated order _ courierResponse rest _ =>
    (.answered courierResponse, order) :: rest.map (Prod.mk .waiting)
  | createEvent order _ _ rest _ => (.recorded, order) :: rest.map (Prod.mk .waiting)
  | updateCaught order _ _ rest _ => (.failing, order) :: rest.map (Prod.mk .waiting)
  | _ => []

def Task.holds : Task → List (Stage × Order)
  | createOrder call => call.hold?.toList
  | bulkItem _ _ call => call.hold?.toList
  | reconcile cycle => cycle.holds
  | _ => []

def Task.hold? (x : String) (task : Task) : Option (Stage × Order) :=
  task.holds.find? fun held => held.2.orderId = x

theorem Task.Quiet.hold? {task : Task} (h : task.Quiet) (x : String) : task.hold? x = none := by
  cases task with
  | createOrder call => cases call <;> first | rfl | exact h.elim
  | bulkItem _ _ call => cases call <;> first | rfl | exact h.elim
  | reconcile cycle => cases cycle <;> first | rfl | exact h.elim
  | _ => rfl

def World.WellKeyed (w : World) : Prop :=
  ∀ x row, w.findOne x = some row → row.rawRequestPayload.orderId = x

def CreateOrder.WellFormed : CreateOrder → Prop
  | updateExisting orderData existingOrder =>
    existingOrder.orderId = orderData.orderId ∧ existingOrder.status.isOpen = true
  | createShipment orderData persistedOrder _ =>
    persistedOrder.orderId = orderData.orderId ∧ persistedOrder.status = .pendingDispatch
  | updateFailed orderData persistedOrder _ =>
    persistedOrder.orderId = orderData.orderId ∧ persistedOrder.status = .pendingDispatch
  | saveUpdate orderData _ persistedOrder =>
    persistedOrder.orderId = orderData.orderId ∧ persistedOrder.status = .pendingDispatch
  | _ => True

structure Selected (orders : List Order) : Prop where
  distinct : (orders.map Order.orderId).Nodup
  pending : ∀ order ∈ orders, order.status = .pendingDispatch
  keyed : ∀ order ∈ orders, order.rawRequestPayload.orderId = order.orderId

/-- The row a cycle is at, together with the rows it has not begun. -/
structure Begun (order : Order) (rest : List Order) : Prop where
  distinct : order.orderId ∉ rest.map Order.orderId
  selected : Selected rest
  status : order.status = .pendingDispatch ∨ order.status = .created

def Reconcile.WellFormed : Reconcile → Prop
  | updateUnsupported order nextRetry rest _ =>
    Selected (order :: rest) ∧ nextRetry = order.retryCount + 1
  | createShipment order nextRetry _ rest _ =>
    Selected (order :: rest) ∧ nextRetry = order.retryCount + 1
  | updateCreated order nextRetry _ rest _ =>
    Selected (order :: rest) ∧ nextRetry = order.retryCount + 1
  | createEvent order _ _ rest _ => Begun order rest ∧ order.status = .created
  | updateCaught order nextRetry _ rest _ =>
    Begun order rest ∧ (order.status = .pendingDispatch → nextRetry = order.retryCount + 1)
  | _ => True

def CancelOrder.WellFormed : CancelOrder → Prop
  | cancelShipment order _ _ => order.status ≠ .cancelled ∧ order.status ≠ .delivered
  | updateCancelled order _ _ => order.status ≠ .cancelled ∧ order.status ≠ .delivered
  | _ => True

def Task.WellFormed : Task → Prop
  | createOrder call => call.WellFormed
  | bulkItem _ _ call => call.WellFormed
  | reconcile cycle => cycle.WellFormed
  | cancelOrder call => call.WellFormed
  | _ => True

structure State.WellFormed (s : State) : Prop where
  keyed : s.world.WellKeyed
  tasks : ∀ task ∈ s.tasks, task.WellFormed

namespace World.WellKeyed

variable {w : World}

theorem updateOrder {env : Env} {loaded : Order} {patch : OrderPatch} (h : w.WellKeyed)
    (payload : ∀ request, patch.rawRequestPayload = some request →
      request.orderId = loaded.orderId) :
    (w.updateOrder env loaded patch).WellKeyed := by
  intro x row found
  rw [findOne_updateOrder] at found
  split at found
  next own =>
    obtain ⟨before, stored, rfl⟩ := Option.map_eq_some_iff.mp found
    have keyed := h x before stored
    cases written : patch.rawRequestPayload with
    | none => simpa [Order.write, written] using keyed
    | some request =>
      rcases env.updateMode.column_some loaded.rawRequestPayload request
        before.rawRequestPayload with new | ⟨-, old⟩
      · simpa [Order.write, written, new, own] using payload request written
      · simpa [Order.write, written, old] using keyed
  next => exact h x row found

theorem updateOrder_of_none {env : Env} {loaded : Order} {patch : OrderPatch} (h : w.WellKeyed)
    (unnamed : patch.rawRequestPayload = none) : (w.updateOrder env loaded patch).WellKeyed :=
  h.updateOrder fun request written => by rw [unnamed] at written; contradiction

theorem createOrder? {after : World} {orderData : NormalizedCreateOrderRequest} {now : Int}
    (h : w.WellKeyed)
    (inserted : w.createOrder? (OrderService.pendingOrder orderData now) = some after) :
    after.WellKeyed := by
  intro x row found
  rw [findOne_createOrder? w inserted] at found
  split at found
  next own => cases found; exact own
  next => exact h x row found

theorem bulkCreate {orders : List NormalizedCreateOrderRequest} {now : Int} (h : w.WellKeyed) :
    (w.bulkCreate (orders.map (BulkOrderService.batchRecord now))).WellKeyed := by
  intro x row found
  rw [findOne_bulkCreate] at found
  rcases Option.or_eq_some_iff.mp found with earlier | ⟨-, new⟩
  · exact h x row earlier
  · have own : row.orderId = x := by simpa using List.find?_some new
    obtain ⟨request, -, rfl⟩ := List.mem_map.mp (List.mem_of_find?_eq_some new)
    exact own

end World.WellKeyed

theorem OrderService.dispatch_wellFormed {env : Env} {orderData : NormalizedCreateOrderRequest}
    {persisted : Order} (own : persisted.orderId = orderData.orderId)
    (pending : persisted.status = .pendingDispatch) :
    (dispatchWithFailureAudit env orderData persisted).WellFormed := by
  rcases dispatch_cases env orderData persisted with ⟨_, rejected⟩ | ⟨_, -, dispatched⟩
  · rw [rejected]; trivial
  · rw [dispatched]; exact ⟨own, pending⟩

theorem OrderService.Moves.wellFormed {env : Env} {w w' : World} {call call' : CreateOrder}
    {a : Answer} (moved : Moves env w call a w' call') (world : w.WellKeyed)
    (h : call.WellFormed) : w'.WellKeyed ∧ call'.WellFormed := by
  cases moved with
  | answeredFromRow => exact ⟨world, trivial⟩
  | readOpen found isOpen => exact ⟨world, World.orderId_of_findOne w found, isOpen⟩
  | readNone => exact ⟨world, trivial⟩
  | prePersisted =>
    refine ⟨world.updateOrder fun request written => ?_, dispatch_wellFormed h.1 rfl⟩
    cases Option.some.inj written
    exact h.1.symm
  | inserted inserted => exact ⟨world.createOrder? inserted, dispatch_wellFormed rfl rfl⟩
  | duplicate => exact ⟨world, trivial⟩
  | booked => exact ⟨world, h⟩
  | refused => exact ⟨world, h⟩
  | audited => exact ⟨world.updateOrder_of_none rfl, trivial⟩
  | savedSqlite => exact ⟨world.updateOrder_of_none rfl, trivial⟩
  | savedPostgres => exact ⟨world.updateOrder_of_none rfl, trivial⟩
  | eventSaved => exact ⟨world, trivial⟩
  | failed => exact ⟨world, trivial⟩

namespace Selected

variable {order : Order} {rest : List Order}

theorem tail (h : Selected (order :: rest)) : Selected rest where
  distinct := (List.nodup_cons.mp h.distinct).2
  pending o mem := h.pending o (List.mem_cons_of_mem _ mem)
  keyed o mem := h.keyed o (List.mem_cons_of_mem _ mem)

theorem begun (h : Selected (order :: rest)) : Begun order rest where
  distinct := (List.nodup_cons.mp h.distinct).1
  selected := h.tail
  status := .inl (h.pending order List.mem_cons_self)

theorem nextOrder {env : Env} {count : Nat} {orders : List Order} (h : Selected orders) :
    (ReconciliationWorker.nextOrder env count orders).WellFormed := by
  cases orders with
  | nil => trivial
  | cons order rest =>
    rcases ReconciliationWorker.reconcileSingleOrder_cases env order rest count with
      ⟨_, -, dispatched⟩ | unsupported
    · rw [ReconciliationWorker.nextOrder, dispatched]; exact ⟨h, rfl⟩
    · rw [ReconciliationWorker.nextOrder, unsupported]; exact ⟨h, rfl⟩

end Selected

theorem ReconciliationWorker.mem_result {w : World} {orderIds : List String} {order : Order}
    (mem : order ∈ orderIds.filterMap w.findOne) :
    order.orderId ∈ orderIds ∧ w.findOne order.orderId = some order := by
  obtain ⟨x, listed, found⟩ := List.mem_filterMap.mp mem
  have own := World.orderId_of_findOne w found
  exact ⟨own ▸ listed, own ▸ found⟩

section
variable {env : Env} {w : World} {stale : Int} {orderIds : List String}

theorem ReconciliationWorker.ids_of_isResult (result : isResult env w stale orderIds = true) :
    (orderIds.filterMap w.findOne).map (·.orderId) = orderIds := by
  obtain ⟨-, found, -⟩ := isResult_iff.mp result
  clear result
  induction orderIds with
  | nil => rfl
  | cons x rest ih =>
    obtain ⟨row, here, -⟩ := found x List.mem_cons_self
    rw [List.filterMap_cons_some here, List.map_cons, w.orderId_of_findOne here,
      ih fun y mem => found y (List.mem_cons_of_mem _ mem)]

theorem ReconciliationWorker.selected_distinct (result : isResult env w stale orderIds = true) :
    ((orderIds.filterMap w.findOne).map Order.orderId).Nodup :=
  (ids_of_isResult result).symm ▸ (isResult_iff.mp result).1

theorem ReconciliationWorker.matched_of_isResult (result : isResult env w stale orderIds = true)
    {order : Order} (mem : order ∈ orderIds.filterMap w.findOne) :
    order.status = .pendingDispatch ∧ order.updatedAt < stale ∧
      order.retryCount < env.maxRetryAttempts := by
  obtain ⟨listed, found⟩ := mem_result mem
  obtain ⟨row, stored, matched⟩ := (isResult_iff.mp result).2.1 _ listed
  cases found.symm.trans stored
  exact selects_iff.mp matched

theorem ReconciliationWorker.selected_of_isResult (world : w.WellKeyed)
    (result : isResult env w stale orderIds = true) :
    Selected (orderIds.filterMap w.findOne) := by
  refine ⟨selected_distinct result, fun order mem => ?_, fun order mem => ?_⟩
  · exact (matched_of_isResult result mem).1
  · exact world _ _ (mem_result mem).2

end

theorem ReconciliationWorker.Moves.wellFormed {env : Env} {w w' : World}
    {cycle cycle' : Reconcile} {a : Answer} (moved : Moves env w cycle a w' cycle')
    (world : w.WellKeyed) (h : cycle.WellFormed) : w'.WellKeyed ∧ cycle'.WellFormed := by
  cases moved with
  | selected result => exact ⟨world, (selected_of_isResult world result).nextOrder⟩
  | unsupported => exact ⟨world.updateOrder_of_none rfl, h.1.tail.nextOrder⟩
  | unsupportedLost => exact ⟨world, h.1.begun, fun _ => h.2⟩
  | booked => exact ⟨world, h⟩
  | refused => exact ⟨world, h.1.begun, fun _ => h.2⟩
  | recorded =>
    have begun := h.1.begun
    exact ⟨world.updateOrder_of_none rfl, ⟨begun.distinct, begun.selected, .inr rfl⟩, rfl⟩
  | recordLost => exact ⟨world, h.1.begun, fun _ => h.2⟩
  | recovered => exact ⟨world, h.1.selected.nextOrder⟩
  | eventLost =>
    exact ⟨world, h.1, fun pending => by rw [h.2] at pending; contradiction⟩
  | caught => exact ⟨world.updateOrder_of_none rfl, h.1.selected.nextOrder⟩
  | aborted => exact ⟨world, trivial⟩

theorem CancellationService.Moves.wellFormed {env : Env} {w w' : World}
    {call call' : CancelOrder} {a : Answer} (moved : Moves env w call a w' call')
    (world : w.WellKeyed) (h : call.WellFormed) : w'.WellKeyed ∧ call'.WellFormed := by
  cases moved with
  | read found notCancelled notDelivered => exact ⟨world, notCancelled, notDelivered⟩
  | alreadyCancelled => exact ⟨world, trivial⟩
  | declined => exact ⟨world, trivial⟩
  | agreed => exact ⟨world, h⟩
  | refused => exact ⟨world, trivial⟩
  | committed => exact ⟨world.updateOrder_of_none rfl, trivial⟩
  | eventAdded => exact ⟨world, trivial⟩
  | failed => exact ⟨world, trivial⟩

theorem Task.Moves.wellFormed {env : Env} {w w' : World} {task task' : Task} {a : Answer}
    (moved : Moves env w task a w' task') (world : w.WellKeyed) (h : task.WellFormed) :
    w'.WellKeyed ∧ task'.WellFormed := by
  cases moved with
  | createOrder moved => exact moved.wellFormed world h
  | bulkItem moved => exact moved.wellFormed world h
  | reconcile moved => exact moved.wellFormed world h
  | cancelOrder moved => exact moved.wellFormed world h
  | createBulkOrders moved =>
    cases moved with
    | prePersisted => exact ⟨world.bulkCreate, trivial⟩
    | _ => exact ⟨world, trivial⟩
  | trackOrder moved =>
    cases moved with
    | statusUpdated => exact ⟨world.updateOrder_of_none rfl, trivial⟩
    | _ => exact ⟨world, trivial⟩

theorem Task.Quiet.wellFormed {task : Task} (h : task.Quiet) : task.WellFormed := by
  cases task with
  | createOrder call => cases call <;> trivial
  | bulkItem _ _ call => cases call <;> trivial
  | reconcile cycle => cases cycle <;> trivial
  | cancelOrder call => cases call <;> trivial
  | _ => trivial

theorem State.WellFormed.next {env : Env} {s t : State} {l : Label} (h : s.WellFormed)
    (moved : (platform env).next s l = some t) : t.WellFormed := by
  have moves := State.Moves.of_next moved
  constructor
  · cases moves with
    | settled awaiting step =>
      exact (step.wellFormed h.keyed (h.tasks _ (List.mem_of_getElem? awaiting))).1
    | _ => exact h.keyed
  · refine moves.forall_tasks_of_quiet
      (fun j task found _ => h.tasks _ (List.mem_of_getElem? found))
      (fun task quiet => quiet.wellFormed) fun i a task task' _ awaiting step => ?_
    exact (step.wellFormed h.keyed (h.tasks _ (List.mem_of_getElem? awaiting))).2

theorem State.WellFormed.reaches {env : Env} {allowed : State → Label → Prop} {s t : State}
    (h : s.WellFormed) (reach : (platform env).Reaches allowed s t) : t.WellFormed :=
  reach.invariant State.WellFormed h fun _ _ _ inv _ moved => inv.next moved

theorem State.WellFormed.init {w : World} (h : w.WellKeyed) : (State.init w).WellFormed :=
  ⟨h, fun _ mem => absurd mem List.not_mem_nil⟩

theorem World.WellKeyed.empty : World.empty.WellKeyed := by
  intro x row found
  simp [World.empty, World.findOne] at found

end CourierPlatform
