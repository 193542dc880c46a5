import CourierPlatform.Library.Lists
import CourierPlatform.Proofs.Footprint
import CourierPlatform.Proofs.Turns
import CourierPlatform.Spec.SingleOrder

/-! A `createOrder` call refines its view of its own order, and where no other call touches
the order, its moves are all that happens to it. -/
namespace CourierPlatform
open Library

/-- The call serves the order `x` and carries no other. -/
structure CreateOrder.About (x : String) (call : CreateOrder) : Prop where
  request : ∀ request ∈ call.request?, request.orderId = x
  carried : ∀ order ∈ call.instance?, order.orderId = x

def World.single (w : World) (x : String) (call : CreateOrder) : SingleOrder :=
  ⟨call, w.findOne x, w.eventsOf x⟩

theorem World.eventsOf_createEvent {w : World} {x : String} {event : TrackingEvent}
    (own : event.orderId = x) : (w.createEvent event).eventsOf x = w.eventsOf x ++ [event] := by
  simp [createEvent, eventsOf, own]

namespace OrderService

variable {env : Env} {w w' : World} {call call' : CreateOrder} {a : Answer} {x : String}

theorem about_dispatch {orderData : NormalizedCreateOrderRequest} {persisted : Order}
    (request : orderData.orderId = x) (carried : persisted.orderId = x) :
    (dispatchWithFailureAudit env orderData persisted).About x where
  request _ mem := dispatch_request? mem ▸ request
  carried _ mem := dispatch_instance? mem ▸ carried

theorem about_afterFindOne {orderData : NormalizedCreateOrderRequest}
    (own : orderData.orderId = x) :
    (afterFindOne orderData (w.findOne orderData.orderId)).About x := by
  unfold afterFindOne prePersistPendingOrder
  split
  · exact ⟨fun _ mem => by contradiction, fun _ mem => by contradiction⟩
  · split
    next existing found =>
      refine ⟨fun _ mem => Option.some.inj mem ▸ own, fun _ mem => ?_⟩
      rw [← Option.some.inj mem, World.orderId_of_findOne w found, own]
    next => exact ⟨fun _ mem => Option.some.inj mem ▸ own, fun _ mem => by contradiction⟩

theorem about_settled (h : call'.settled = true) : call'.About x where
  request _ mem := by cases call' <;> contradiction
  carried _ mem := by cases call' <;> contradiction

theorem eventsOf_initialTracking {orderData : NormalizedCreateOrderRequest}
    {reply : NormalizedCreateOrderResponse} {persisted : Order} {now : Int}
    (own : persisted.orderId = x) :
    (w.createEvent (initialTracking env orderData reply persisted now)).eventsOf x =
      w.eventsOf x ++ [initialTracking env orderData reply persisted now] :=
  World.eventsOf_createEvent own

/-- The step of a call over all tables is its step over its own order. -/
theorem step_single (about : call.About x) (h : step env w call a = some (w', call')) :
    (w.single x call).step env w.now a = some (w'.single x call') ∧ call'.About x := by
  have updated {loaded : Order} {patch : OrderPatch} (own : loaded.orderId = x) :
      SingleOrder.updateRow env w.now loaded patch (w.findOne x) =
        (w.updateOrder env loaded patch).findOne x :=
    (w.findOne_updateOrder_own x own).symm
  cases call with
  | findOne orderData =>
    have own : orderData.orderId = x := about.request _ rfl
    cases a with
    | ok =>
      cases h
      refine ⟨?_, about_afterFindOne own⟩
      rw [own]
      rfl
    | dbError error => cases h; exact ⟨rfl, about_settled rfl⟩
    | _ => cases h
  | updateExisting orderData existing =>
    have own : existing.orderId = x := about.carried _ rfl
    cases a with
    | ok =>
      cases h
      refine ⟨?_, about_dispatch (about.request _ rfl) own⟩
      simp only [World.single, ← updated own]
      rfl
    | dbError error => cases h; exact ⟨rfl, about_settled rfl⟩
    | _ => cases h
  | createRow orderData =>
    have own : orderData.orderId = x := about.request _ rfl
    cases a with
    | ok =>
      simp only [step] at h
      cases inserted : w.createOrder? (pendingOrder orderData w.now) with
      | some created =>
        rw [inserted] at h
        cases h
        have absent := w.findOne_of_createOrder? inserted
        have present := w.findOne_createOrder? inserted x
        obtain ⟨orders, -, rfl⟩ := Option.map_eq_some_iff.mp inserted
        rw [show (pendingOrder orderData w.now).orderId = x from own] at absent
        rw [show (pendingOrder orderData w.now).orderId = x from own, if_pos rfl] at present
        refine ⟨?_, about_dispatch own own⟩
        simp only [World.single, present, absent]
        rfl
      | none =>
        rw [inserted] at h
        cases h
        obtain ⟨row, stored⟩ := Option.isSome_iff_exists.mp
          (UniqueTable.insert?_eq_none_iff.mp (Option.map_eq_none_iff.mp inserted))
        have present : w.findOne x = some row := own ▸ stored
        refine ⟨?_, about_settled rfl⟩
        simp only [World.single, present]
        rfl
    | dbError error => cases h; exact ⟨rfl, about_settled rfl⟩
    | _ => cases h
  | createShipment orderData persisted adapter =>
    cases a with
    | booked reply =>
      cases h
      exact ⟨rfl, about.request, fun _ mem => about.carried _ mem⟩
    | refused error =>
      cases h
      exact ⟨rfl, about.request, fun _ mem => about.carried _ mem⟩
    | _ => cases h
  | updateFailed orderData persisted error =>
    cases a with
    | ok =>
      cases h
      refine ⟨?_, about_settled rfl⟩
      simp only [World.single, ← updated (about.carried _ rfl)]
      rfl
    | dbError error => cases h; exact ⟨rfl, about_settled rfl⟩
    | _ => cases h
  | saveUpdate orderData reply persisted =>
    have own : persisted.orderId = x := about.carried _ rfl
    cases a with
    | ok =>
      simp only [step] at h
      cases dialect : env.dialect with
      | sqlite =>
        rw [dialect] at h
        cases h
        refine ⟨?_, about.request, fun _ mem => about.carried _ mem⟩
        simp only [World.single, ← updated own, SingleOrder.step, SingleOrder.saved, dialect]
        rfl
      | postgres =>
        rw [dialect] at h
        cases h
        refine ⟨?_, about_settled rfl⟩
        simp only [World.single, SingleOrder.step, SingleOrder.saved, dialect, updated own,
          eventsOf_initialTracking own]
        rfl
    | dbError error => cases h; exact ⟨rfl, about_settled rfl⟩
    | _ => cases h
  | saveEvent orderData reply persisted =>
    cases a with
    | ok =>
      cases h
      refine ⟨?_, about_settled rfl⟩
      simp only [World.single, eventsOf_initialTracking (about.carried _ rfl)]
      rfl
    | dbError error => cases h; exact ⟨rfl, about_settled rfl⟩
    | _ => cases h
  | resolved response => cases a <;> cases h
  | rejected error => cases a <;> cases h

end OrderService

def Request.orderIds : Request → List String
  | createOrder orderData => [orderData.orderId]
  | createBulkOrders orders _ => orders.map (·.orderId)
  | trackOrder orderId => [orderId]
  | cancelOrder orderId _ => [orderId]
  | reconcilePendingOrders => []

/-- The step brings no traffic on the order `x`: no request for it arrives, and no query of the
worker returns it. -/
def Label.spares (x : String) : Label → Bool
  | start request => x ∉ request.orderIds
  | settle _ (.rows orderIds) => x ∉ orderIds
  | _ => true

def State.Untouched (s : State) (x : String) : Prop := ∀ task ∈ s.tasks, x ∉ task.touches

structure State.Alone (s : State) (x : String) (i : Nat) (call : CreateOrder) : Prop where
  here : ∃ task, s.tasks[i]? = some task ∧ task.Runs call
  about : call.About x
  others : ∀ (j : Nat) (task : Task), s.tasks[j]? = some task → j ≠ i → x ∉ task.touches

section
variable {env : Env} {s t : State} {l : Label} {x : String} {i : Nat} {call : CreateOrder}

theorem Request.start_touches {request : Request} {now : Int}
    (spared : x ∉ request.orderIds) : x ∉ (request.start env now).touches := by
  cases request <;> simp_all [start, Task.touches, Task.named, Task.instances, orderIds,
    OrderService.createOrder, CreateOrder.request?, CreateOrder.instance?,
    BulkOrderService.createBulkOrders, BulkOrder.toStart, TrackingService.trackOrder,
    TrackOrder.instance?, CancellationService.cancelOrder, CancelOrder.instance?,
    ReconciliationWorker.reconcilePendingOrders, Reconcile.instances]

theorem State.Moves.frame (moves : Moves env s l t) (spares : l.spares x = true)
    (mover : ∀ i a task, l = .settle i a → s.tasks[i]? = some task → x ∉ task.touches) :
    t.world.findOne x = s.world.findOne x ∧ t.world.eventsOf x = s.world.eventsOf x := by
  cases moves with
  | settled awaiting step =>
    have untouched := mover _ _ _ rfl awaiting
    exact ⟨step.findOne untouched, step.eventsOf untouched⟩
  | _ => exact ⟨rfl, rfl⟩

theorem toStart_item {batchId : String} {orders : List NormalizedCreateOrderRequest}
    {currentIndex : Nat} {orderItem : NormalizedCreateOrderRequest}
    (item : orders[currentIndex]? = some orderItem) :
    (BulkOrder.executing batchId orders currentIndex).toStart =
      orderItem :: (BulkOrder.executing batchId orders (currentIndex + 1)).toStart := by
  obtain ⟨bound, same⟩ := List.getElem?_eq_some_iff.mp item
  rw [BulkOrder.toStart, List.drop_eq_getElem_cons bound, same]
  rfl

theorem touches_executing {batchId : String} {orders : List NormalizedCreateOrderRequest}
    {currentIndex : Nat} {orderItem : NormalizedCreateOrderRequest}
    (item : orders[currentIndex]? = some orderItem) :
    x ∉ (Task.createBulkOrders (.executing batchId orders currentIndex)).touches ↔
      x ≠ orderItem.orderId ∧
        x ∉ (Task.createBulkOrders (.executing batchId orders (currentIndex + 1))).touches := by
  simp [Task.touches, Task.named, toStart_item item, Task.instances]

theorem State.Moves.others (moves : Moves env s l t) (spares : l.spares x = true)
    (others : ∀ (j : Nat) (task : Task), s.tasks[j]? = some task → j ≠ i → x ∉ task.touches)
    (starter : l = .startItem i → ∀ task, s.tasks[i]? = some task → x ∉ task.touches) :
    ∀ (j : Nat) (task : Task), t.tasks[j]? = some task → j ≠ i → x ∉ task.touches := by
  intro j task found other
  have starts {k : Nat} {bulk : Task} (label : l = .startItem k) (awaiting : s.tasks[k]? = some bulk) :
      x ∉ bulk.touches := by
    by_cases mine : k = i
    · exact starter (mine ▸ label) _ (mine ▸ awaiting)
    · exact others k _ awaiting mine
  cases moves.came found with
  | kept before still => exact others j task before other
  | started request label last =>
    rw [label] at spares
    exact Request.start_touches (of_decide_eq_true spares)
  | moved label awaiting step =>
    refine step.untouched (others j _ awaiting other) ?_
    rintro orderIds rfl
    rw [label] at spares
    exact of_decide_eq_true spares
  | item awaiting label item last =>
    have first := ((touches_executing item).mp (starts label awaiting)).1
    simpa [Task.touches, Task.named, Task.instances, OrderService.createOrder,
      CreateOrder.request?, CreateOrder.instance?] using first
  | wentOn awaiting label item =>
    exact ((touches_executing item).mp (starts label awaiting)).2
  | collected awaiting => exact List.not_mem_nil
  | died before => exact List.not_mem_nil

theorem State.next_settle {a : Answer} (h : (platform env).next s (.settle i a) = some t) :
    ∃ task w' task', s.tasks[i]? = some task ∧ task.step env s.world a = some (w', task') ∧
      t = ⟨w', s.tasks.set i task'⟩ := by
  change State.next env s (.settle i a) = some t at h
  simp only [State.next, bind, Option.bind_eq_some_iff, Prod.exists] at h
  obtain ⟨task, awaiting, w', task', stepped, result⟩ := h
  exact ⟨task, w', task', awaiting, stepped, (Option.some.inj result).symm⟩

theorem Task.Runs.step {task task' : Task} {w w' : World} {a : Answer} (runs : task.Runs call)
    (h : task.step env w a = some (w', task')) :
    ∃ call', task'.Runs call' ∧ OrderService.step env w call a = some (w', call') := by
  cases runs with
  | single =>
    obtain ⟨⟨w', call'⟩, stepped, same⟩ := Option.map_eq_some_iff.mp h
    cases same
    exact ⟨call', .single, stepped⟩
  | item =>
    obtain ⟨⟨w', call'⟩, stepped, same⟩ := Option.map_eq_some_iff.mp h
    cases same
    exact ⟨call', .item, stepped⟩

theorem State.untouched_of_others {task : Task} (there : s.tasks[i]? = some task)
    (idle : x ∉ task.touches)
    (others : ∀ (j : Nat) (task : Task), s.tasks[j]? = some task → j ≠ i → x ∉ task.touches) :
    s.Untouched x := by
  intro other mem
  obtain ⟨j, found⟩ := List.getElem?_of_mem mem
  by_cases same : j = i
  · cases (same ▸ found).symm.trans there
    exact idle
  · exact others j other found same

theorem State.Untouched.next (untouched : s.Untouched x) (moves : Moves env s l t)
    (spares : l.spares x = true) :
    t.Untouched x ∧ t.world.findOne x = s.world.findOne x ∧
      t.world.eventsOf x = s.world.eventsOf x := by
  have idle (j : Nat) (task : Task) (found : s.tasks[j]? = some task) : x ∉ task.touches :=
    untouched task (List.mem_of_getElem? found)
  refine ⟨fun task mem => ?_, moves.frame spares fun i _ task _ => idle i task⟩
  obtain ⟨j, found⟩ := List.getElem?_of_mem mem
  refine moves.others (i := t.tasks.length) spares (fun j task found _ => idle j task found)
    (fun _ task => idle _ task) j task found (Nat.ne_of_lt ?_)
  exact (List.getElem?_eq_some_iff.mp found).1

theorem State.Moves.keeps_task {task : Task} (moves : Moves env s l t)
    (here : s.tasks[i]? = some task) (notBulk : ∀ bulk, task ≠ .createBulkOrders bulk)
    (off : ∀ a, l ≠ .settle i a) :
    t.tasks[i]? = some task ∨
      (∃ dead, l = .crash dead) ∧ task.isApi = true ∧ t.tasks[i]? = some .crashed := by
  have notStarted : l ≠ .startItem i := by
    rintro rfl
    cases moves with
    | itemStarted awaiting => exact notBulk _ (Option.some.inj (here.symm.trans awaiting))
  have notCollected : l ≠ .collect i := by
    rintro rfl
    cases moves with
    | collected awaiting => exact notBulk _ (Option.some.inj (here.symm.trans awaiting))
  rcases moves.stays here off notStarted notCollected with same | ⟨dead, label, -, api, gone⟩
  · exact .inl same
  · exact .inr ⟨⟨dead, label⟩, api, gone⟩

inductive State.OwnStep (env : Env) (x : String) (i : Nat) (call : CreateOrder) (s : State) :
    Label → State → Prop where
  | served {a after s'} (step : (s.world.single x call).step env s.world.now a = some after)
      (alone : s'.Alone x i after.call) (view : s'.world.single x after.call = after) :
      OwnStep env x i call s (.settle i a) s'
  | kept {l' s'} (alone : s'.Alone x i call)
      (view : s'.world.single x call = s.world.single x call) : OwnStep env x i call s l' s'
  | died {dead s'} (untouched : s'.Untouched x)
      (view : s'.world.single x call = s.world.single x call) :
      OwnStep env x i call s (.crash dead) s'

theorem State.Alone.next (alone : s.Alone x i call) (spares : l.spares x = true)
    (moved : (platform env).next s l = some t) : OwnStep env x i call s l t := by
  have moves := State.Moves.of_next moved
  obtain ⟨mine, here, runs⟩ := alone.here
  have others := moves.others spares alone.others (by
    rintro rfl task found
    cases moves with
    | itemStarted awaiting item => cases here.symm.trans awaiting; cases runs)
  by_cases served : ∃ a, l = .settle i a
  · obtain ⟨a, rfl⟩ := served
    obtain ⟨task, w', task', found, stepped, rfl⟩ := State.next_settle moved
    cases here.symm.trans found
    obtain ⟨call', runs', stepped⟩ := runs.step stepped
    obtain ⟨single, about⟩ := OrderService.step_single alone.about stepped
    refine .served single ⟨⟨task', ?_, runs'⟩, about, others⟩ rfl
    exact getElem?_set_of_some here
  have off (a : Answer) : l ≠ .settle i a := fun same => served ⟨a, same⟩
  have frame : t.world.single x call = s.world.single x call := by
    have rows := moves.frame spares (by
      rintro j a task rfl found
      exact alone.others j task found fun same => served ⟨a, same ▸ rfl⟩)
    rw [World.single, rows.1, rows.2, World.single]
  have notBulk (bulk : BulkOrder) : mine ≠ .createBulkOrders bulk := by
    rintro rfl
    cases runs
  rcases moves.keeps_task here notBulk off with there | ⟨⟨dead, rfl⟩, -, there⟩
  · exact .kept ⟨⟨mine, there, runs⟩, alone.about, others⟩ frame
  · exact .died (State.untouched_of_others there List.not_mem_nil others) frame

/-- The rule for an order that one call serves alone: what that call's own steps keep holds in
every state, until its process dies. -/
theorem State.Alone.invariant {allowed : State → Label → Prop} (good : Answer → Prop)
    (J : SingleOrder → Prop) (alone : s.Alone x i call) (start : J (s.world.single x call))
    (kept : ∀ now a o after, J o → good a → o.step env now a = some after → J after)
    (spares : ∀ s l, allowed s l → l.spares x = true)
    (answers : ∀ s a, allowed s (.settle i a) → good a)
    (reach : (platform env).Reaches allowed s t) :
    ∃ call', J (t.world.single x call') ∧
      (t.Alone x i call' ∨ (∃ s dead, allowed s (.crash dead)) ∧ t.Untouched x) := by
  refine reach.invariant (fun t => ∃ call', J (t.world.single x call') ∧
    (t.Alone x i call' ∨ (∃ s dead, allowed s (.crash dead)) ∧ t.Untouched x))
    ⟨call, start, .inl alone⟩ ?_
  rintro a l b ⟨call, holds, alone | ⟨crashes, untouched⟩⟩ permitted moved
  · cases alone.next (spares a l permitted) moved with
    | served step alone view =>
      refine ⟨_, ?_, .inl alone⟩
      rw [view]
      exact kept _ _ _ _ holds (answers a _ permitted) step
    | kept alone view => exact ⟨call, by rwa [view], .inl alone⟩
    | @died dead _ untouched view => exact ⟨call, by rwa [view], .inr ⟨⟨a, dead, permitted⟩, untouched⟩⟩
  · obtain ⟨untouched, row, events⟩ := untouched.next (.of_next moved) (spares a l permitted)
    refine ⟨call, ?_, .inr ⟨crashes, untouched⟩⟩
    rwa [World.single, row, events]

end
end CourierPlatform
