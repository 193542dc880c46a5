import CourierPlatform.Proofs.CallAccounts
import CourierPlatform.Proofs.Footprint

/-! What the rows, the calls in flight and the bookings at the couriers are made from: the requests
that were submitted. The columns of a row that describe the shipment keep what the first request said,
its payload is a request submitted for the order at some time. -/
namespace CourierPlatform
open Library

/-- The columns that no update names. -/
structure OrderDetails where
  orderId : String
  courierPartner : String
  senderDetails : AddressInfo
  recipientDetails : AddressInfo
  packageDetails : PackageDetails
  paymentDetails : PaymentDetails
  serviceType : Option String

def Order.details (order : Order) : OrderDetails :=
  ⟨order.orderId, order.courierPartner, order.senderDetails, order.recipientDetails,
    order.packageDetails, order.paymentDetails, order.serviceType⟩

def NormalizedCreateOrderRequest.details (orderData : NormalizedCreateOrderRequest) : OrderDetails :=
  ⟨orderData.orderId, orderData.courierPartner, orderData.sender, orderData.recipient,
    orderData.packageDetails, orderData.paymentDetails, orNull orderData.serviceType⟩

def Request.orders : Request → List NormalizedCreateOrderRequest
  | createOrder orderData => [orderData]
  | createBulkOrders orders _ => orders
  | _ => []

@[simp] theorem Order.write_details (row : Order) (mode : UpdateMode) (now : Int) (loaded : Order)
    (patch : OrderPatch) : (row.write mode now loaded patch).details = row.details := rfl

@[simp] theorem Order.assign_details (loaded : Order) (now : Int) (patch : OrderPatch) :
    (loaded.assign now patch).details = loaded.details := rfl

@[simp] theorem OrderService.pendingOrder_details (orderData : NormalizedCreateOrderRequest)
    (now : Int) : (pendingOrder orderData now).details = orderData.details := rfl

structure Order.From (submitted : NormalizedCreateOrderRequest → Prop) (row : Order) : Prop where
  payload : submitted row.rawRequestPayload
  details : ∃ first, submitted first ∧ row.details = first.details

def Task.requests : Task → List NormalizedCreateOrderRequest
  | createOrder call => call.request?.toList
  | bulkItem _ _ call => call.request?.toList
  | createBulkOrders call => call.toStart
  | _ => []

structure Task.From (submitted : NormalizedCreateOrderRequest → Prop) (task : Task) : Prop where
  requests : ∀ orderData ∈ task.requests, submitted orderData
  instances : ∀ order ∈ task.instances, order.From submitted

structure World.From (submitted : NormalizedCreateOrderRequest → Prop) (w : World) : Prop where
  rows : ∀ x row, w.findOne x = some row → row.From submitted
  bookings : ∀ adapter orderData result,
    .createShipment adapter orderData result ∈ w.courierCalls → submitted orderData

structure State.From (submitted : NormalizedCreateOrderRequest → Prop) (s : State) : Prop where
  world : s.world.From submitted
  tasks : ∀ task ∈ s.tasks, task.From submitted

variable {env : Env} {w w' : World} {submitted more : NormalizedCreateOrderRequest → Prop}

/-! ## Rows -/

namespace Order.From

theorem mono {row : Order} (h : row.From submitted) (wider : ∀ o, submitted o → more o) :
    row.From more := by
  obtain ⟨first, named, same⟩ := h.details
  exact ⟨wider _ h.payload, first, wider _ named, same⟩

theorem write {row loaded : Order} {mode : UpdateMode} {now : Int} {patch : OrderPatch}
    (h : row.From submitted)
    (named : ∀ request, patch.rawRequestPayload = some request → submitted request) :
    (row.write mode now loaded patch).From submitted := by
  refine ⟨?_, h.details⟩
  cases written : patch.rawRequestPayload with
  | none => simpa [Order.write, written] using h.payload
  | some request =>
    rcases mode.column_some loaded.rawRequestPayload request row.rawRequestPayload with
      new | ⟨-, old⟩
    · simpa [Order.write, written, new] using named request written
    · simpa [Order.write, written, old] using h.payload

theorem pendingOrder {orderData : NormalizedCreateOrderRequest} (h : submitted orderData)
    (now : Int) : (OrderService.pendingOrder orderData now).From submitted :=
  ⟨h, orderData, h, rfl⟩

end Order.From

namespace World.From

theorem mono (h : w.From submitted) (wider : ∀ o, submitted o → more o) : w.From more :=
  ⟨fun x row stored => (h.rows x row stored).mono wider,
    fun adapter orderData result mem => wider _ (h.bookings adapter orderData result mem)⟩

theorem updateOrder {loaded : Order} {patch : OrderPatch} (h : w.From submitted)
    (named : ∀ request, patch.rawRequestPayload = some request → submitted request) :
    (w.updateOrder env loaded patch).From submitted := by
  refine ⟨fun x row found => ?_, h.bookings⟩
  rw [findOne_updateOrder] at found
  split at found
  next own =>
    obtain ⟨before, stored, rfl⟩ := Option.map_eq_some_iff.mp found
    exact (h.rows x before stored).write named
  next => exact h.rows x row found

theorem updateOrder_of_none {loaded : Order} {patch : OrderPatch} (h : w.From submitted)
    (unnamed : patch.rawRequestPayload = none) : (w.updateOrder env loaded patch).From submitted :=
  h.updateOrder fun request written => by rw [unnamed] at written; contradiction

theorem createOrder? {after : World} {orderData : NormalizedCreateOrderRequest} {now : Int}
    (h : w.From submitted) (named : submitted orderData)
    (inserted : w.createOrder? (OrderService.pendingOrder orderData now) = some after) :
    after.From submitted := by
  refine ⟨fun x row found => ?_, by
    rw [createOrder?_courierCalls w inserted]
    exact h.bookings⟩
  rw [findOne_createOrder? w inserted] at found
  split at found
  next own =>
    cases found
    exact .pendingOrder named now
  next => exact h.rows x row found

theorem bulkCreate {orders : List NormalizedCreateOrderRequest} {now : Int} (h : w.From submitted)
    (named : ∀ o ∈ orders, submitted o) :
    (w.bulkCreate (orders.map (BulkOrderService.batchRecord now))).From submitted := by
  refine ⟨fun x row found => ?_, h.bookings⟩
  rw [findOne_bulkCreate] at found
  rcases Option.or_eq_some_iff.mp found with earlier | ⟨-, new⟩
  · exact h.rows x row earlier
  · obtain ⟨request, mem, rfl⟩ := List.mem_map.mp (List.mem_of_find?_eq_some new)
    exact .pendingOrder (named request mem) now

theorem createEvent (h : w.From submitted) (event : TrackingEvent) :
    (w.createEvent event).From submitted := ⟨h.rows, h.bookings⟩

theorem record (h : w.From submitted) {call : CourierCall}
    (named : ∀ adapter orderData result, call = .createShipment adapter orderData result →
      submitted orderData) : (w.record call).From submitted := by
  refine ⟨h.rows, fun adapter orderData result mem => ?_⟩
  rcases w.mem_record call mem with before | new
  · exact h.bookings adapter orderData result before
  · exact named adapter orderData result new

end World.From

/-! ## Calls -/

theorem Task.From.mono {task : Task} (h : task.From submitted) (wider : ∀ o, submitted o → more o) :
    task.From more :=
  ⟨fun orderData mem => wider _ (h.requests orderData mem),
    fun order mem => (h.instances order mem).mono wider⟩

theorem OrderService.Moves.keepsFrom {call call' : CreateOrder} {a : Answer}
    (moved : OrderService.Moves env w call a w' call') (world : w.From submitted)
    (request : ∀ orderData ∈ call.request?, submitted orderData)
    (loaded : ∀ order ∈ call.instance?, order.From submitted) :
    w'.From submitted ∧ (∀ order ∈ call'.instance?, order.From submitted) := by
  cases moved with
  | readOpen found =>
    refine ⟨world, fun order mem => ?_⟩
    cases mem
    exact world.rows _ _ found
  | prePersisted =>
    have payload (request' : NormalizedCreateOrderRequest)
        (written : (pendingPatch _).rawRequestPayload = some request') : submitted request' :=
      request request' written
    refine ⟨world.updateOrder payload, fun order mem => ?_⟩
    rw [dispatch_instance? mem]
    exact (loaded _ rfl).write payload
  | inserted created =>
    refine ⟨world.createOrder? (request _ rfl) created, fun order mem => ?_⟩
    rw [dispatch_instance? mem]
    exact .pendingOrder (request _ rfl) _
  | booked =>
    refine ⟨world.record fun adapter orderData result same => ?_, loaded⟩
    cases same
    exact request _ rfl
  | refused =>
    refine ⟨world.record fun adapter orderData result same => ?_, loaded⟩
    cases same
    exact request _ rfl
  | audited => exact ⟨world.updateOrder_of_none rfl, fun order mem => nomatch mem⟩
  | savedSqlite => exact ⟨world.updateOrder_of_none rfl, loaded⟩
  | savedPostgres =>
    exact ⟨(world.updateOrder_of_none rfl).createEvent _, fun order mem => nomatch mem⟩
  | eventSaved => exact ⟨world.createEvent _, fun order mem => nomatch mem⟩
  | _ => exact ⟨world, fun order mem => nomatch mem⟩

theorem ReconciliationWorker.Moves.keepsFrom {cycle cycle' : Reconcile} {a : Answer}
    (moved : ReconciliationWorker.Moves env w cycle a w' cycle') (world : w.From submitted)
    (loaded : ∀ order ∈ cycle.instances, order.From submitted) :
    w'.From submitted ∧ ∀ order ∈ cycle'.instances, order.From submitted := by
  have later {count : Nat} {current : Order} {rest : List Order}
      (loaded : ∀ order ∈ current :: rest, order.From submitted) :
      ∀ order ∈ (nextOrder env count rest).instances, order.From submitted := by
    rw [nextOrder_instances]
    exact fun order mem => loaded order (List.mem_cons_of_mem _ mem)
  cases moved with
  | selected result =>
    refine ⟨world, ?_⟩
    rw [nextOrder_instances]
    intro order mem
    obtain ⟨x, -, found⟩ := List.mem_filterMap.mp mem
    exact world.rows x order found
  | unsupported => exact ⟨world.updateOrder_of_none rfl, later loaded⟩
  | unsupportedLost => exact ⟨world, loaded⟩
  | booked =>
    refine ⟨world.record fun adapter orderData result same => ?_, loaded⟩
    cases same
    exact (loaded _ List.mem_cons_self).payload
  | refused =>
    refine ⟨world.record fun adapter orderData result same => ?_, loaded⟩
    cases same
    exact (loaded _ List.mem_cons_self).payload
  | recorded =>
    refine ⟨world.updateOrder_of_none rfl, fun order mem => ?_⟩
    rcases List.mem_cons.mp mem with rfl | mem
    · exact (loaded _ List.mem_cons_self).write fun request written => nomatch written
    · exact loaded order (List.mem_cons_of_mem _ mem)
  | recordLost => exact ⟨world, loaded⟩
  | recovered => exact ⟨world.createEvent _, later loaded⟩
  | eventLost => exact ⟨world, loaded⟩
  | caught => exact ⟨world.updateOrder_of_none rfl, later loaded⟩
  | aborted => exact ⟨world, fun order mem => nomatch mem⟩

theorem Task.Moves.keepsFrom {task task' : Task} {a : Answer}
    (moved : Task.Moves env w task a w' task') (world : w.From submitted)
    (h : task.From submitted) : w'.From submitted ∧ task'.From submitted := by
  have served {call call' : CreateOrder} (moved : OrderService.Moves env w call a w' call')
      (requests : ∀ orderData ∈ call.request?.toList, submitted orderData)
      (instances : ∀ order ∈ call.instance?.toList, order.From submitted) :
      w'.From submitted ∧ (∀ orderData ∈ call'.request?.toList, submitted orderData) ∧
        ∀ order ∈ call'.instance?.toList, order.From submitted := by
    obtain ⟨world', loaded⟩ := moved.keepsFrom world
      (fun orderData mem => requests orderData (Option.mem_toList.mpr mem))
      (fun order mem => instances order (Option.mem_toList.mpr mem))
    exact ⟨world',
      fun orderData mem => requests orderData (Option.mem_toList.mpr
        (moved.request? (Option.mem_toList.mp mem))),
      fun order mem => loaded order (Option.mem_toList.mp mem)⟩
  have idle (world' : w'.From submitted) (none : task'.requests = [])
      (instances : ∀ order ∈ task'.instances, order.From submitted) :
      w'.From submitted ∧ task'.From submitted :=
    ⟨world', fun orderData mem => by rw [none] at mem; contradiction, instances⟩
  cases moved with
  | createOrder moved =>
    obtain ⟨world', requests, instances⟩ := served moved h.requests h.instances
    exact ⟨world', requests, instances⟩
  | bulkItem moved =>
    obtain ⟨world', requests, instances⟩ := served moved h.requests h.instances
    exact ⟨world', requests, instances⟩
  | createBulkOrders moved =>
    have toStart := h.requests
    cases moved with
    | batchCreated => exact ⟨⟨world.rows, world.bookings⟩, toStart, fun order mem => nomatch mem⟩
    | prePersisted =>
      refine ⟨world.bulkCreate toStart, fun orderData mem => toStart orderData ?_,
        fun order mem => nomatch mem⟩
      exact List.mem_of_mem_drop mem
    | notPrePersisted =>
      refine ⟨world, fun orderData mem => toStart orderData ?_, fun order mem => nomatch mem⟩
      exact List.mem_of_mem_drop mem
    | summarized => exact idle ⟨world.rows, world.bookings⟩ rfl fun order mem => nomatch mem
    | failed => exact idle world rfl fun order mem => nomatch mem
  | trackOrder moved =>
    have loaded {order : Order} (carried : order ∈ (Task.trackOrder _).instances) :=
      h.instances order carried
    have recorded {adapter : Adapter} {awbNumber orderId : String}
        {result : Except Thrown NormalizedTrackingResponse} :
        (w.record (.trackShipment adapter awbNumber orderId result)).From submitted :=
      world.record fun _ _ _ same => nomatch same
    cases moved with
    | read found =>
      refine idle world rfl fun order mem => ?_
      cases List.mem_singleton.mp mem
      exact world.rows _ _ found
    | declined => exact idle world rfl fun order mem => nomatch mem
    | tracked =>
      refine idle recorded rfl fun order mem => ?_
      rw [TrackingService.updateStatus_instance? (Option.mem_toList.mp mem)]
      exact loaded (List.mem_singleton_self _)
    | refused => exact idle recorded rfl fun order mem => nomatch mem
    | statusUpdated =>
      refine idle (world.updateOrder_of_none rfl) rfl fun order mem => ?_
      rw [TrackingService.nextEvent_instance? (Option.mem_toList.mp mem)]
      exact (loaded (List.mem_singleton_self _)).write fun request written => nomatch written
    | eventFound =>
      refine idle world rfl fun order mem => ?_
      rw [TrackingService.nextEvent_instance? (Option.mem_toList.mp mem)]
      exact loaded (List.mem_singleton_self _)
    | eventMissing => exact idle world rfl h.instances
    | eventAdded =>
      refine idle (world.createEvent _) rfl fun order mem => ?_
      rw [TrackingService.nextEvent_instance? (Option.mem_toList.mp mem)]
      exact loaded (List.mem_singleton_self _)
    | failed => exact idle world rfl fun order mem => nomatch mem
  | cancelOrder moved =>
    have recorded {adapter : Adapter} {awbNumber orderId : String} {reason : Option String}
        {result : Except Thrown NormalizedCancelResponse} :
        (w.record (.cancelShipment adapter awbNumber orderId reason result)).From submitted :=
      world.record fun _ _ _ same => nomatch same
    cases moved with
    | read found =>
      refine idle world rfl fun order mem => ?_
      cases List.mem_singleton.mp mem
      exact world.rows _ _ found
    | agreed => exact idle recorded rfl h.instances
    | refused => exact idle recorded rfl fun order mem => nomatch mem
    | committed =>
      refine idle (world.updateOrder_of_none rfl) rfl fun order mem => ?_
      cases List.mem_singleton.mp mem
      exact (h.instances _ (List.mem_singleton_self _)).write fun request written => nomatch written
    | eventAdded => exact idle (world.createEvent _) rfl fun order mem => nomatch mem
    | _ => exact idle world rfl fun order mem => nomatch mem
  | reconcile moved =>
    obtain ⟨world', instances⟩ := moved.keepsFrom world h.instances
    exact idle world' rfl instances

/-! ## Runs -/

variable {s t : State} {l : Label}

theorem State.From.init (submitted : NormalizedCreateOrderRequest → Prop) :
    (State.init .empty).From submitted where
  world := ⟨fun x row found => by simp [State.init, World.empty, World.findOne] at found,
    fun _ _ _ mem => nomatch mem⟩
  tasks _ mem := nomatch mem

theorem State.From.mono (h : s.From submitted) (wider : ∀ o, submitted o → more o) : s.From more :=
  ⟨h.world.mono wider, fun task mem => (h.tasks task mem).mono wider⟩

theorem Request.start_from {request : Request} {now : Int}
    (named : ∀ o ∈ request.orders, submitted o) : (request.start env now).From submitted := by
  constructor
  · cases request with
    | createOrder orderData => exact named
    | createBulkOrders orders batchId => exact named
    | _ => exact fun _ mem => nomatch mem
  · cases request <;> exact fun _ mem => nomatch mem

theorem State.From.next (h : s.From submitted)
    (named : ∀ request, l = .start request → ∀ o ∈ request.orders, submitted o)
    (moves : State.Moves env s l t) : t.From submitted := by
  constructor
  · cases moves with
    | settled awaiting moved =>
      exact (moved.keepsFrom h.world (h.tasks _ (List.mem_of_getElem? awaiting))).1
    | ticked ms => exact ⟨h.world.rows, h.world.bookings⟩
    | _ => exact h.world
  · intro task mem
    obtain ⟨j, found⟩ := List.getElem?_of_mem mem
    have before {i : Nat} {task : Task} (found : s.tasks[i]? = some task) : task.From submitted :=
      h.tasks task (List.mem_of_getElem? found)
    cases moves.came found with
    | kept here still => exact before here
    | started request label last => exact Request.start_from (named request label)
    | moved label awaiting step => exact (step.keepsFrom h.world (before awaiting)).2
    | @item i batchId orders currentIndex orderItem awaiting label item last =>
      have ahead : orderItem ∈ orders.drop currentIndex :=
        List.mem_of_getElem? (i := 0) (by rw [List.getElem?_drop, Nat.add_zero, item])
      refine ⟨fun orderData mem => ?_, fun order mem => nomatch mem⟩
      cases List.mem_singleton.mp mem
      exact (before awaiting).requests _ ahead
    | @wentOn batchId orders currentIndex orderItem awaiting label item =>
      refine ⟨fun orderData mem => (before awaiting).requests _ ?_, fun order mem => nomatch mem⟩
      exact List.drop_subset_drop_left orders (Nat.le_succ currentIndex) mem
    | collected awaiting => exact ⟨fun _ mem => (nomatch mem), fun _ mem => nomatch mem⟩
    | died here => exact ⟨fun _ mem => (nomatch mem), fun _ mem => nomatch mem⟩

theorem State.From.reaches {allowed : State → Label → Prop} (h : s.From submitted)
    (named : ∀ s l, allowed s l → ∀ request, l = .start request → ∀ o ∈ request.orders, submitted o)
    (reach : (platform env).Reaches allowed s t) : t.From submitted :=
  reach.invariant (State.From submitted) h
    fun a l _ inv permitted moved => inv.next (named a l permitted) (.of_next moved)

/-! ## What no update names -/

def World.KeepsDetails (w w' : World) : Prop :=
  ∀ x row, w.findOne x = some row → ∃ row', w'.findOne x = some row' ∧ row'.details = row.details

namespace World.KeepsDetails

theorem refl (w : World) : w.KeepsDetails w := fun _ row stored => ⟨row, stored, rfl⟩

theorem trans {w'' : World} (first : w.KeepsDetails w') (second : w'.KeepsDetails w'') :
    w.KeepsDetails w'' := by
  intro x row stored
  obtain ⟨row', stored', same⟩ := first x row stored
  obtain ⟨row'', stored'', same'⟩ := second x row' stored'
  exact ⟨row'', stored'', same'.trans same⟩

theorem updateOrder (loaded : Order) (patch : OrderPatch) :
    w.KeepsDetails (w.updateOrder env loaded patch) := by
  intro x row stored
  rw [findOne_updateOrder, stored]
  split
  · exact ⟨_, rfl, rfl⟩
  · exact ⟨row, rfl, rfl⟩

theorem createOrder? {row : Order} (inserted : w.createOrder? row = some w') : w.KeepsDetails w' := by
  intro x before stored
  rw [findOne_createOrder? w inserted, if_neg]
  · exact ⟨before, stored, rfl⟩
  · rintro rfl
    rw [findOne_of_createOrder? w inserted] at stored
    contradiction

theorem bulkCreate (rows : List Order) : w.KeepsDetails (w.bulkCreate rows) := by
  intro x row stored
  exact ⟨row, by rw [findOne_bulkCreate, stored, Option.some_or], rfl⟩

end World.KeepsDetails

theorem OrderService.Moves.keepsDetails {call call' : CreateOrder} {a : Answer}
    (moved : OrderService.Moves env w call a w' call') : w.KeepsDetails w' := by
  cases moved with
  | inserted inserted => exact .createOrder? inserted
  | prePersisted => exact .updateOrder _ _
  | audited => exact .updateOrder _ _
  | savedSqlite => exact .updateOrder _ _
  | @savedPostgres _ reply persisted =>
    exact @World.KeepsDetails.updateOrder env w persisted (createdPatch reply)
  | _ => exact .refl w

theorem Task.Moves.keepsDetails {task task' : Task} {a : Answer}
    (moved : Task.Moves env w task a w' task') : w.KeepsDetails w' := by
  cases moved with
  | createOrder moved => exact moved.keepsDetails
  | bulkItem moved => exact moved.keepsDetails
  | createBulkOrders moved =>
    cases moved with
    | prePersisted => exact .bulkCreate _
    | _ => exact .refl w
  | trackOrder moved =>
    cases moved with
    | statusUpdated => exact .updateOrder _ _
    | _ => exact .refl w
  | cancelOrder moved =>
    cases moved with
    | committed => exact .updateOrder _ _
    | _ => exact .refl w
  | reconcile moved =>
    cases moved with
    | unsupported => exact .updateOrder _ _
    | recorded => exact .updateOrder _ _
    | caught => exact .updateOrder _ _
    | _ => exact .refl w

theorem State.Moves.keepsDetails (moves : State.Moves env s l t) : s.world.KeepsDetails t.world := by
  cases moves with
  | settled awaiting moved => exact moved.keepsDetails
  | _ => exact .refl s.world

/-! ## The run -/

def submittedOrders (requests : List Request) : List NormalizedCreateOrderRequest :=
  requests.flatMap Request.orders

theorem noteRequest_submits {requests : List Request} {o : NormalizedCreateOrderRequest}
    (mem : o ∈ submittedOrders requests) : o ∈ submittedOrders (noteRequest s l t requests) := by
  cases l with
  | start request =>
    simp only [noteRequest, submittedOrders, List.flatMap_append]
    exact List.mem_append_left _ mem
  | _ => exact mem

/-- The columns of a row that describe the shipment are those of one submitted order and stay so, also
when the order is submitted again with others; its payload and whatever is booked at a courier are
submitted orders as well, the payload one of the same id. -/
theorem rows_keep_submission {earlier requests : List Request}
    (reach : ((platform env).observed noteRequest).Reaches (fun _ _ => True)
      (.init .empty, []) (s, earlier))
    (later : ((platform env).observed noteRequest).Reaches (fun _ _ => True)
      (s, earlier) (t, requests)) :
    (∀ x row, s.world.findOne x = some row →
      ∃ row', t.world.findOne x = some row' ∧ row'.details = row.details) ∧
    (∀ x row, t.world.findOne x = some row →
      (∃ first ∈ submittedOrders requests, row.details = first.details) ∧
        row.rawRequestPayload ∈ submittedOrders requests ∧ row.rawRequestPayload.orderId = x) ∧
    ∀ adapter orderData result,
      .createShipment adapter orderData result ∈ t.world.courierCalls →
        orderData ∈ submittedOrders requests := by
  have kept : s.world.KeepsDetails t.world := by
    refine later.invariant (fun r => s.world.KeepsDetails r.1.world) (.refl _) ?_
    intro a l b inv _ moved
    obtain ⟨b', stepped, same⟩ := Option.map_eq_some_iff.mp moved
    cases same
    exact inv.trans (State.Moves.of_next stepped).keepsDetails
  have made : t.WellFormed ∧ t.From (· ∈ submittedOrders requests) := by
    refine @Machine.Reaches.observed_invariant _ _ _ (fun _ _ => True) _ _ _ _ _ _
      (fun t requests => t.WellFormed ∧ t.From (· ∈ submittedOrders requests))
      ⟨.init .empty, .init _⟩ ?_ (reach.trans later)
    intro a l b before inv _ moved
    refine ⟨inv.1.next moved, State.From.next (inv.2.mono fun o => noteRequest_submits) ?_
      (.of_next moved)⟩
    rintro request rfl o mem
    simp only [noteRequest, submittedOrders, List.flatMap_append, List.flatMap_cons,
      List.flatMap_nil, List.append_nil]
    exact List.mem_append_right _ mem
  refine ⟨kept, fun x row stored => ?_, made.2.world.bookings⟩
  obtain ⟨payload, details⟩ := made.2.world.rows x row stored
  exact ⟨details, payload, made.1.keyed x row stored⟩

theorem rows_keep_submission_resubmitted :
    ∃ (t : State) (requests : List Request) (row : Order), t.world.findOne "A-1" = some row ∧
      row.courierPartner = "mock" ∧ row.rawRequestPayload.courierPartner = "urbanebolt" ∧
      ∃ first ∈ submittedOrders requests, row.details = first.details := by
  let production' := production.observed noteRequest
  obtain ⟨⟨s, earlier⟩, reach, first⟩ := Machine.Reaches.of_run_any production' (fun _ _ => True)
    (.init .empty, [])
    [.start (.createOrder (parcel "A-1" "mock")), .settle 0 .ok, .settle 0 .ok,
      .settle 0 (.refused (.error "timeout")), .settle 0 .ok]
    (fun s => (production'.run (fun _ _ => True) s
      [.start (.createOrder (parcel "A-1" "urbanebolt")), .settle 1 .ok, .settle 1 .ok]).any
        fun t => (t.1.world.findOne "A-1").any fun row => row.courierPartner = "mock" &&
          row.rawRequestPayload.courierPartner = "urbanebolt") (by decide)
  obtain ⟨⟨t, requests⟩, later, test⟩ := Machine.Reaches.of_run_any production' _ (s, earlier) _ _ first
  obtain ⟨row, stored, columns⟩ := (Option.any_eq_true _ _).mp test
  simp only [Bool.and_eq_true, decide_eq_true_eq] at columns
  exact ⟨t, requests, row, stored, columns.1, columns.2,
    ((rows_keep_submission reach later).2.1 "A-1" row stored).1⟩

end CourierPlatform
