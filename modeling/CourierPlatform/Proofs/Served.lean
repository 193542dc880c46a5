import CourierPlatform.Proofs.OwnOrder

/-! An order with one request in flight, which may be an item of a batch. Until the batch
begins that item, the call of the order is the one it will begin with. -/
namespace CourierPlatform
open Library OrderService

variable {env : Env} {s t : State} {l : Label} {call : CreateOrder}
  {orderData : NormalizedCreateOrderRequest}

/-- The order has one request in flight: its own call runs, or it is an item of a batch whose
own call has not begun, or the process of its call has died. -/
inductive State.Served (s : State) (orderData : NormalizedCreateOrderRequest) :
    CreateOrder → Prop where
  | running {i call'} (alone : s.Alone orderData.orderId i call') : Served s orderData call'
  | waiting {i bulk} (here : s.tasks[i]? = some (.createBulkOrders bulk))
      (item : bulk.toStart.filter (·.orderId = orderData.orderId) = [orderData])
      (others : ∀ (j : Nat) (task : Task), s.tasks[j]? = some task → j ≠ i →
        orderData.orderId ∉ task.touches) : Served s orderData (.findOne orderData)
  | gone {call'} (untouched : s.Untouched orderData.orderId) : Served s orderData call'

theorem findOne_batch {w : World} {orders : List NormalizedCreateOrderRequest}
    (item : orders.filter (·.orderId = orderData.orderId) = [orderData]) :
    (w.bulkCreate (orders.map (BulkOrderService.batchRecord w.now))).findOne orderData.orderId =
      (w.findOne orderData.orderId).or (some (pendingOrder orderData w.now)) := by
  have found : orders.find? (fun o => o.orderId = orderData.orderId) = some orderData := by
    rw [← List.head?_filter, item]
    rfl
  rw [World.findOne_bulkCreate, List.find?_map]
  change Option.or _ ((orders.find? fun o => decide (o.orderId = orderData.orderId)).map _) = _
  rw [found]
  rfl

theorem bulk_touches {bulk : BulkOrder} {x : String}
    (spared : bulk.toStart.filter (·.orderId = x) = []) :
    x ∉ (Task.createBulkOrders bulk).touches := by
  simp only [Task.touches, Task.named, Task.instances, List.map_nil, List.append_nil, List.mem_map,
    not_exists, not_and]
  intro orderItem mem same
  exact List.filter_eq_nil_iff.mp spared orderItem mem (decide_eq_true same)

theorem item_touches {bulk index : Nat} {orderItem : NormalizedCreateOrderRequest} {x : String}
    (other : orderItem.orderId ≠ x) :
    x ∉ (Task.bulkItem bulk index (createOrder orderItem)).touches := by
  simpa [Task.touches, Task.named, Task.instances, createOrder, CreateOrder.request?,
    CreateOrder.instance?] using Ne.symm other

theorem State.Served.startItem {i : Nat} {bulk : BulkOrder}
    (here : s.tasks[i]? = some (.createBulkOrders bulk))
    (item : bulk.toStart.filter (·.orderId = orderData.orderId) = [orderData])
    (others : ∀ (j : Nat) (task : Task), s.tasks[j]? = some task → j ≠ i →
      orderData.orderId ∉ task.touches) (moves : State.Moves env s (.startItem i) t) :
    t.Served orderData (.findOne orderData) ∧ t.world = s.world := by
  cases moves with
  | @itemStarted _ batchId orders currentIndex orderItem awaiting taken =>
    cases here.symm.trans awaiting
    have bound := (List.getElem?_eq_some_iff.mp here).1
    have there : (s.tasks.set i (.createBulkOrders (.executing batchId orders (currentIndex + 1))) ++
        [Task.bulkItem i currentIndex (createOrder orderItem)])[i]? =
          some (.createBulkOrders (.executing batchId orders (currentIndex + 1))) := by
      rw [List.getElem?_append_left (by rwa [List.length_set]), List.getElem?_set_self bound]
    have new : (s.tasks.set i (.createBulkOrders (.executing batchId orders (currentIndex + 1))) ++
        [Task.bulkItem i currentIndex (createOrder orderItem)])[s.tasks.length]? =
          some (.bulkItem i currentIndex (createOrder orderItem)) := by
      simp
    rw [toStart_item taken, List.filter_cons] at item
    refine ⟨?_, rfl⟩
    by_cases own : orderItem.orderId = orderData.orderId
    · rw [if_pos (decide_eq_true own)] at item
      cases (List.cons.inj item).1
      have spared := bulk_touches (List.cons.inj item).2
      refine .running (i := s.tasks.length) ⟨⟨_, new, .item⟩, ⟨fun _ mem => ?_, fun _ mem => ?_⟩, ?_⟩
      · cases mem
        rfl
      · cases mem
      · intro j task found other
        rcases getElem?_concat_cases found with before | ⟨last, -⟩
        · rcases getElem?_set_cases before with ⟨apart, before⟩ | ⟨-, rfl⟩
          · exact others j task before apart
          · exact spared
        · rw [List.length_set] at last
          exact absurd last other
    · rw [if_neg (by simpa using own)] at item
      refine .waiting there item fun j task found other => ?_
      rcases getElem?_concat_cases found with before | ⟨-, rfl⟩
      · rcases getElem?_set_cases before with ⟨-, before⟩ | ⟨same, -⟩
        · exact others j task before other
        · exact absurd same other
      · exact item_touches own

inductive State.ServedStep (env : Env) (orderData : NormalizedCreateOrderRequest) (s t : State) :
    CreateOrder → Prop where
  | served {call' now a after}
      (step : (s.world.single orderData.orderId call').step env now a = some after)
      (next : t.Served orderData after.call)
      (view : t.world.single orderData.orderId after.call = after) : ServedStep env orderData s t call'
  | kept {call'} (next : t.Served orderData call')
      (view : t.world.single orderData.orderId call' = s.world.single orderData.orderId call') :
      ServedStep env orderData s t call'
  | inserted (next : t.Served orderData (.findOne orderData)) (now : Int)
      (row : t.world.findOne orderData.orderId =
        (s.world.findOne orderData.orderId).or (some (pendingOrder orderData now)))
      (events : t.world.eventsOf orderData.orderId = s.world.eventsOf orderData.orderId) :
      ServedStep env orderData s t (.findOne orderData)

theorem State.Served.next (served : s.Served orderData call)
    (spares : l.spares orderData.orderId = true) (moved : (platform env).next s l = some t) :
    ServedStep env orderData s t call := by
  have moves := State.Moves.of_next moved
  cases served with
  | running alone =>
    cases alone.next spares moved with
    | served step alone view => exact .served step (.running alone) view
    | kept alone view => exact .kept (.running alone) view
    | died untouched view => exact .kept (.gone untouched) view
  | gone untouched =>
    obtain ⟨untouched, row, events⟩ := untouched.next moves spares
    exact .kept (.gone untouched) (by rw [World.single, row, events, World.single])
  | @waiting i bulk here item others =>
    by_cases starts : l = .startItem i
    · subst starts
      obtain ⟨next, world⟩ := State.Served.startItem here item others moves
      exact .kept next (by rw [world])
    have others' := moves.others spares others fun same => absurd same starts
    have kept (row : t.world.findOne orderData.orderId = s.world.findOne orderData.orderId)
        (events : t.world.eventsOf orderData.orderId = s.world.eventsOf orderData.orderId)
        (next : t.Served orderData (.findOne orderData)) :
        ServedStep env orderData s t (.findOne orderData) :=
      .kept next (by rw [World.single, row, events, World.single])
    by_cases settles : ∃ a, l = .settle i a
    · obtain ⟨a, rfl⟩ := settles
      cases moves with
      | @settled _ _ _ _ task' awaiting step =>
        cases here.symm.trans awaiting
        have there := List.getElem?_set_self (a := task') (List.getElem?_eq_some_iff.mp here).1
        cases step with
        | createBulkOrders step =>
          cases step with
          | batchCreated => exact kept rfl rfl (.waiting there item others')
          | notPrePersisted => exact kept rfl rfl (.waiting there item others')
          | prePersisted => exact .inserted (.waiting there item others') _ (findOne_batch item) rfl
          | summarized => contradiction
          | failed awaits =>
            exact kept rfl rfl (.gone (State.untouched_of_others there List.not_mem_nil others'))
    have off (a : Answer) : l ≠ .settle i a := fun same => settles ⟨a, same⟩
    -- an item is still to start, so the pool cannot resolve
    have notCollected : l ≠ .collect i := by
      rintro rfl
      cases moves with
      | collected awaiting all settled =>
        cases here.symm.trans awaiting
        rw [BulkOrder.toStart, List.drop_eq_nil_of_le all] at item
        contradiction
    obtain ⟨row, events⟩ := moves.frame spares (by
      rintro j a task rfl found
      exact others j task found fun same => off a (congrArg (Label.settle · a) same))
    rcases moves.stays here off starts notCollected with there | ⟨dead, -, -, -, there⟩
    · exact kept row events (.waiting there item others')
    · exact kept row events (.gone (State.untouched_of_others there List.not_mem_nil others'))

theorem State.Served.invariant {allowed : State → Label → Prop} (J : SingleOrder → Prop)
    (served : s.Served orderData call) (start : J (s.world.single orderData.orderId call))
    (kept : ∀ now a o after, J o → o.step env now a = some after → J after)
    (inserted : ∀ now row events, J ⟨.findOne orderData, row, events⟩ →
      J ⟨.findOne orderData, row.or (some (pendingOrder orderData now)), events⟩)
    (spares : ∀ s l, allowed s l → l.spares orderData.orderId = true)
    (reach : (platform env).Reaches allowed s t) :
    ∃ call', J (t.world.single orderData.orderId call') ∧ t.Served orderData call' := by
  refine reach.invariant (fun t => ∃ call', J (t.world.single orderData.orderId call') ∧
    t.Served orderData call') ⟨call, start, served⟩ ?_
  rintro a l b ⟨call, holds, served⟩ permitted moved
  cases served.next (spares a l permitted) moved with
  | served step next view => exact ⟨_, by rw [view]; exact kept _ _ _ _ holds step, next⟩
  | kept next view => exact ⟨call, by rwa [view], next⟩
  | inserted next now row events =>
    refine ⟨_, ?_, next⟩
    rw [World.single, row, events]
    exact inserted now _ _ holds

end CourierPlatform
