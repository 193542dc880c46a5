import CourierPlatform.Proofs.Steps

/-! The orders that a call may touch: those its requests name and those whose instances it
carries. A move leaves every other order alone. -/
namespace CourierPlatform
open Library

def World.eventsOf (w : World) (x : String) : List TrackingEvent :=
  w.events.filter fun event => event.orderId = x

def CreateOrder.request? : CreateOrder → Option NormalizedCreateOrderRequest
  | findOne orderData => some orderData
  | updateExisting orderData _ => some orderData
  | createRow orderData => some orderData
  | createShipment orderData _ _ => some orderData
  | updateFailed orderData _ _ => some orderData
  | saveUpdate orderData _ _ => some orderData
  | saveEvent orderData _ _ => some orderData
  | _ => none

def CreateOrder.instance? : CreateOrder → Option Order
  | updateExisting _ existingOrder => some existingOrder
  | createShipment _ persistedOrder _ => some persistedOrder
  | updateFailed _ persistedOrder _ => some persistedOrder
  | saveUpdate _ _ persistedOrder => some persistedOrder
  | saveEvent _ _ persistedOrder => some persistedOrder
  | _ => none

def TrackOrder.instance? : TrackOrder → Option Order
  | trackShipment order _ _ => some order
  | updateStatus order _ => some order
  | findEvent order _ _ _ => some order
  | createEvent order _ _ _ => some order
  | _ => none

def CancelOrder.instance? : CancelOrder → Option Order
  | cancelShipment order _ _ => some order
  | updateCancelled order _ _ => some order
  | createEvent order _ _ => some order
  | _ => none

def Reconcile.instances : Reconcile → List Order
  | updateUnsupported order _ rest _ => order :: rest
  | createShipment order _ _ rest _ => order :: rest
  | updateCreated order _ _ rest _ => order :: rest
  | createEvent order _ _ rest _ => order :: rest
  | updateCaught order _ _ rest _ => order :: rest
  | _ => []

def BulkOrder.toStart : BulkOrder → List NormalizedCreateOrderRequest
  | initBatchRecord _ orders => orders
  | prePersistAll _ orders => orders
  | executing _ orders currentIndex => orders.drop currentIndex
  | _ => []

def Task.named : Task → List String
  | createOrder call => call.request?.toList.map (·.orderId)
  | bulkItem _ _ call => call.request?.toList.map (·.orderId)
  | createBulkOrders call => call.toStart.map (·.orderId)
  | trackOrder (.fetchOrder orderId) => [orderId]
  | cancelOrder (.fetchOrder orderId _) => [orderId]
  | _ => []

def Task.instances : Task → List Order
  | createOrder call => call.instance?.toList
  | bulkItem _ _ call => call.instance?.toList
  | trackOrder call => call.instance?.toList
  | cancelOrder call => call.instance?.toList
  | reconcile cycle => cycle.instances
  | _ => []

def Task.touches (task : Task) : List String := task.named ++ task.instances.map Order.orderId

section
variable {env : Env} {w w' : World} {a : Answer} {x : String}

theorem OrderService.dispatch_instance? {orderData : NormalizedCreateOrderRequest}
    {persisted order : Order}
    (mem : order ∈ (dispatchWithFailureAudit env orderData persisted).instance?) :
    order = persisted := by
  rcases dispatch_cases env orderData persisted with ⟨_, rejected⟩ | ⟨_, -, dispatched⟩
  · rw [rejected] at mem; contradiction
  · rw [dispatched] at mem; exact (Option.some.inj mem).symm

theorem OrderService.dispatch_request? {orderData request : NormalizedCreateOrderRequest}
    {persisted : Order}
    (mem : request ∈ (dispatchWithFailureAudit env orderData persisted).request?) :
    request = orderData := by
  rcases dispatch_cases env orderData persisted with ⟨_, rejected⟩ | ⟨_, -, dispatched⟩
  · rw [rejected] at mem; contradiction
  · rw [dispatched] at mem; exact (Option.some.inj mem).symm

theorem TrackingService.nextEvent_instance? {order loaded : Order}
    {reply : NormalizedTrackingResponse} {history : List TrackingEventItem}
    (mem : order ∈ (nextEvent loaded reply history).instance?) : order = loaded := by
  cases history with
  | nil => contradiction
  | cons event rest => exact (Option.some.inj mem).symm

theorem TrackingService.updateStatus_instance? {order loaded : Order}
    {reply : NormalizedTrackingResponse}
    (mem : order ∈ (updateOrderStatusIfChanged loaded reply).instance?) : order = loaded := by
  unfold updateOrderStatusIfChanged at mem
  split at mem
  · exact (Option.some.inj mem).symm
  · exact nextEvent_instance? mem

theorem ReconciliationWorker.nextOrder_instances (env : Env) (count : Nat) (rest : List Order) :
    (nextOrder env count rest).instances = rest := by
  cases rest with
  | nil => rfl
  | cons order later =>
    rcases reconcileSingleOrder_cases env order later count with ⟨_, -, same⟩ | same
    · rw [nextOrder, same]; rfl
    · rw [nextOrder, same]; rfl

end

/-- Where an instance that a call carries after a move comes from: the call carried it before, or
has just read or inserted its row. -/
def Task.CameFrom (w' : World) (task : Task) (a : Answer) (x : String) : Prop :=
  x ∈ task.instances.map Order.orderId ∨
    (w'.findOne x).isSome ∧ (x ∈ task.named ∨ ∃ orderIds, a = .rows orderIds ∧ x ∈ orderIds)

section
variable {env : Env} {w w' : World} {a : Answer} {task task' : Task}

theorem OrderService.Moves.instances {call call' : CreateOrder}
    (moved : Moves env w call a w' call')
    (named : task.named = call.request?.toList.map (·.orderId))
    (carried : task.instances = call.instance?.toList) {order : Order}
    (mem : order ∈ call'.instance?) : task.CameFrom w' a order.orderId := by
  unfold Task.CameFrom
  rw [named, carried]
  cases moved with
  | readOpen found isOpen =>
    cases mem
    have own := World.orderId_of_findOne w found
    exact .inr ⟨by rw [own, found]; rfl, .inl (by simp [own, CreateOrder.request?])⟩
  | prePersisted =>
    rw [dispatch_instance? mem]
    exact .inl (by simp [CreateOrder.instance?])
  | @inserted orderData created inserted =>
    rw [dispatch_instance? mem]
    refine .inr ⟨?_, .inl (by simp [CreateOrder.request?, pendingOrder])⟩
    rw [w.findOne_createOrder? inserted, if_pos rfl]
    rfl
  | booked => exact .inl (by cases mem; simp [CreateOrder.instance?])
  | refused => exact .inl (by cases mem; simp [CreateOrder.instance?])
  | savedSqlite => exact .inl (by cases mem; simp [CreateOrder.instance?])
  | _ => contradiction

theorem Task.Moves.instances (moved : Moves env w task a w' task') {order : Order}
    (mem : order ∈ task'.instances) : task.CameFrom w' a order.orderId := by
  cases moved with
  | createOrder moved => exact moved.instances rfl rfl (Option.mem_toList.mp mem)
  | bulkItem moved => exact moved.instances rfl rfl (Option.mem_toList.mp mem)
  | createBulkOrders moved => contradiction
  | trackOrder moved =>
    replace mem := Option.mem_toList.mp mem
    cases moved with
    | read found =>
      cases mem
      have own := World.orderId_of_findOne w found
      exact .inr ⟨by rw [own, found]; rfl, .inl (by simp [own, Task.named])⟩
    | tracked =>
      rw [TrackingService.updateStatus_instance? mem]
      exact .inl (by simp [Task.instances, TrackOrder.instance?])
    | statusUpdated =>
      rw [TrackingService.nextEvent_instance? mem]
      exact .inl (by simp [Task.instances, TrackOrder.instance?])
    | eventFound =>
      rw [TrackingService.nextEvent_instance? mem]
      exact .inl (by simp [Task.instances, TrackOrder.instance?])
    | eventMissing => exact .inl (by cases mem; simp [Task.instances, TrackOrder.instance?])
    | eventAdded =>
      rw [TrackingService.nextEvent_instance? mem]
      exact .inl (by simp [Task.instances, TrackOrder.instance?])
    | _ => contradiction
  | cancelOrder moved =>
    replace mem := Option.mem_toList.mp mem
    cases moved with
    | read found =>
      cases mem
      have own := World.orderId_of_findOne w found
      exact .inr ⟨by rw [own, found]; rfl, .inl (by simp [own, Task.named])⟩
    | agreed => exact .inl (by cases mem; simp [Task.instances, CancelOrder.instance?])
    | committed => exact .inl (by cases mem; simp [Task.instances, CancelOrder.instance?])
    | _ => contradiction
  | reconcile moved =>
    have rows {count : Nat} {rest : List Order}
        (mem : order ∈ (ReconciliationWorker.nextOrder env count rest).instances) :
        order ∈ rest := by rwa [ReconciliationWorker.nextOrder_instances] at mem
    have later {current : Order} {rest : List Order} (mem : order ∈ rest) :
        order.orderId ∈ (current :: rest).map Order.orderId :=
      List.mem_cons_of_mem _ (List.mem_map_of_mem mem)
    cases moved with
    | selected result =>
      obtain ⟨x, listed, found⟩ := List.mem_filterMap.mp (rows mem)
      have own := World.orderId_of_findOne w found
      exact .inr ⟨by rw [own, found]; rfl, .inr ⟨_, rfl, own ▸ listed⟩⟩
    | unsupported => exact .inl (later (rows mem))
    | recovered => exact .inl (later (rows mem))
    | caught => exact .inl (later (rows mem))
    | recorded =>
      rcases List.mem_cons.mp mem with rfl | mem
      · exact .inl List.mem_cons_self
      · exact .inl (later mem)
    | unsupportedLost => exact .inl (List.mem_map_of_mem mem)
    | booked => exact .inl (List.mem_map_of_mem mem)
    | refused => exact .inl (List.mem_map_of_mem mem)
    | recordLost => exact .inl (List.mem_map_of_mem mem)
    | eventLost => exact .inl (List.mem_map_of_mem mem)
    | aborted => contradiction

theorem OrderService.Moves.request? {call call' : CreateOrder}
    (moved : Moves env w call a w' call') {request : NormalizedCreateOrderRequest}
    (mem : request ∈ call'.request?) : request ∈ call.request? := by
  cases moved with
  | prePersisted => rw [dispatch_request? mem]; rfl
  | inserted => rw [dispatch_request? mem]; rfl
  | readOpen => exact mem
  | readNone => exact mem
  | booked => exact mem
  | refused => exact mem
  | savedSqlite => exact mem
  | _ => contradiction

theorem TrackingService.nextEvent_named (order : Order) (reply : NormalizedTrackingResponse)
    (history : List TrackingEventItem) :
    (Task.trackOrder (nextEvent order reply history)).named = [] := by
  cases history <;> rfl

theorem Task.Moves.named (moved : Moves env w task a w' task') {x : String}
    (mem : x ∈ task'.named) : x ∈ task.named := by
  have served {call call' : CreateOrder} (moved : OrderService.Moves env w call a w' call')
      (mem : x ∈ call'.request?.toList.map (·.orderId)) :
      x ∈ call.request?.toList.map (·.orderId) := by
    obtain ⟨request, carried, rfl⟩ := List.mem_map.mp mem
    exact List.mem_map_of_mem (Option.mem_toList.mpr (moved.request? (Option.mem_toList.mp carried)))
  cases moved with
  | createOrder moved => exact served moved mem
  | bulkItem moved => exact served moved mem
  | createBulkOrders moved =>
    cases moved with
    | batchCreated => exact mem
    | prePersisted => exact mem
    | notPrePersisted => exact mem
    | _ => contradiction
  | trackOrder moved =>
    cases moved with
    | tracked =>
      unfold TrackingService.updateOrderStatusIfChanged at mem
      split at mem
      · contradiction
      · rw [TrackingService.nextEvent_named] at mem; contradiction
    | statusUpdated => rw [TrackingService.nextEvent_named] at mem; contradiction
    | eventFound => rw [TrackingService.nextEvent_named] at mem; contradiction
    | eventAdded => rw [TrackingService.nextEvent_named] at mem; contradiction
    | _ => contradiction
  | cancelOrder moved => cases moved <;> contradiction
  | reconcile moved => contradiction

theorem Task.Moves.events (moved : Moves env w task a w' task') :
    w'.events = w.events ∨ ∃ event, w'.events = w.events ++ [event] ∧
      event.orderId ∈ task.instances.map Order.orderId := by
  have served {call call' : CreateOrder} (moved : OrderService.Moves env w call a w' call')
      (carried : task.instances = call.instance?.toList) :
      w'.events = w.events ∨ ∃ event, w'.events = w.events ++ [event] ∧
        event.orderId ∈ task.instances.map Order.orderId := by
    rw [carried]
    cases moved with
    | inserted inserted =>
      obtain ⟨_, -, rfl⟩ := Option.map_eq_some_iff.mp inserted
      exact .inl rfl
    | savedPostgres => exact .inr ⟨_, rfl, List.mem_singleton_self _⟩
    | eventSaved => exact .inr ⟨_, rfl, List.mem_singleton_self _⟩
    | _ => exact .inl rfl
  cases moved with
  | createOrder moved => exact served moved rfl
  | bulkItem moved => exact served moved rfl
  | createBulkOrders moved => cases moved <;> exact .inl rfl
  | trackOrder moved =>
    cases moved with
    | eventAdded => exact .inr ⟨_, rfl, List.mem_singleton_self _⟩
    | _ => exact .inl rfl
  | cancelOrder moved =>
    cases moved with
    | eventAdded => exact .inr ⟨_, rfl, List.mem_singleton_self _⟩
    | _ => exact .inl rfl
  | reconcile moved =>
    cases moved with
    | recovered => exact .inr ⟨_, rfl, List.mem_cons_self⟩
    | _ => exact .inl rfl

theorem Task.Moves.findOne (moved : Moves env w task a w' task') {x : String}
    (untouched : x ∉ task.touches) : w'.findOne x = w.findOne x := by
  have updated {order : Order} {patch : OrderPatch} (carried : order ∈ task.instances) :
      (w.updateOrder env order patch).findOne x = w.findOne x := by
    rw [World.findOne_updateOrder, if_neg]
    rintro rfl
    exact untouched (List.mem_append_right _ (List.mem_map_of_mem carried))
  have served {call call' : CreateOrder} (moved : OrderService.Moves env w call a w' call')
      (named : task.named = call.request?.toList.map (·.orderId))
      (carried : task.instances = call.instance?.toList) : w'.findOne x = w.findOne x := by
    have mine {order : Order} (mem : order ∈ call.instance?) : order ∈ task.instances :=
      carried ▸ Option.mem_toList.mpr mem
    cases moved with
    | prePersisted => exact updated (mine rfl)
    | @inserted orderData created inserted =>
      rw [w.findOne_createOrder? inserted, if_neg]
      rintro rfl
      exact untouched (List.mem_append_left _ (by simp [named, CreateOrder.request?,
        OrderService.pendingOrder]))
    | audited => exact updated (mine rfl)
    | savedSqlite => exact updated (mine rfl)
    | savedPostgres => exact updated (mine rfl)
    | _ => rfl
  cases moved with
  | createOrder moved => exact served moved rfl rfl
  | bulkItem moved => exact served moved rfl rfl
  | createBulkOrders moved =>
    cases moved with
    | @prePersisted batchId orders =>
      rw [World.findOne_bulkCreate, List.find?_eq_none.mpr, Option.or_none]
      intro record listed same
      obtain ⟨request, mem, rfl⟩ := List.mem_map.mp listed
      exact untouched (List.mem_append_left _ (List.mem_map.mpr
        ⟨request, mem, of_decide_eq_true same⟩))
    | _ => rfl
  | trackOrder moved =>
    cases moved with
    | statusUpdated => exact updated (List.mem_singleton_self _)
    | _ => rfl
  | cancelOrder moved =>
    cases moved with
    | committed => exact updated (List.mem_singleton_self _)
    | _ => rfl
  | reconcile moved =>
    cases moved with
    | unsupported => exact updated List.mem_cons_self
    | recorded => exact updated List.mem_cons_self
    | caught => exact updated List.mem_cons_self
    | _ => rfl

theorem Task.Moves.eventsOf (moved : Moves env w task a w' task') {x : String}
    (untouched : x ∉ task.touches) : w'.eventsOf x = w.eventsOf x := by
  rcases moved.events with same | ⟨event, added, carried⟩
  · rw [World.eventsOf, same, World.eventsOf]
  · have other : event.orderId ≠ x := by
      rintro rfl
      exact untouched (List.mem_append_right _ carried)
    rw [World.eventsOf, added, List.filter_append, World.eventsOf]
    simp [other]

theorem Task.Moves.untouched (moved : Moves env w task a w' task') {x : String}
    (untouched : x ∉ task.touches) (listed : ∀ orderIds, a = .rows orderIds → x ∉ orderIds) :
    x ∉ task'.touches := by
  intro mem
  rcases List.mem_append.mp mem with named | carried
  · exact untouched (List.mem_append_left _ (moved.named named))
  · obtain ⟨order, mem', rfl⟩ := List.mem_map.mp carried
    rcases moved.instances mem' with before | ⟨-, named | ⟨orderIds, rfl, mem⟩⟩
    · exact untouched (List.mem_append_right _ before)
    · exact untouched (List.mem_append_left _ named)
    · exact listed orderIds rfl mem

end
end CourierPlatform
