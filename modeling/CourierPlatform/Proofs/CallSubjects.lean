import CourierPlatform.Proofs.BatchReport
import CourierPlatform.Proofs.OwnOrder
import CourierPlatform.Spec.Responses

/-! A call stays one for its request, and resolves with a response about it. -/
namespace CourierPlatform
open Library

variable {env : Env} {w w' : World} {s t : State} {l : Label} {a : Answer}

theorem OrderService.afterFindOne_concerns {orderData : NormalizedCreateOrderRequest}
    {existingOrder : Option Order} (own : ∀ row ∈ existingOrder, row.orderId = orderData.orderId) :
    (afterFindOne orderData existingOrder).Concerns orderData := by
  unfold afterFindOne
  cases existingOrder with
  | none => rfl
  | some row =>
    cases answered : checkIdempotentResponse (some row) with
    | none => rfl
    | some response =>
      simp only [checkIdempotentResponse] at answered
      split at answered
      next =>
        cases answered
        exact own row rfl
      next => contradiction

theorem OrderService.dispatch_concerns (env : Env) (orderData : NormalizedCreateOrderRequest)
    (persistedOrder : Order) :
    (dispatchWithFailureAudit env orderData persistedOrder).Concerns orderData := by
  rcases dispatch_cases env orderData persistedOrder with ⟨unknown, same⟩ | ⟨adapter, -, same⟩ <;>
    rw [same]
  · trivial
  · rfl

theorem World.findOne_orderId {x : String} {row : Order} (found : w.findOne x = some row) :
    row.orderId = x :=
  UniqueTable.key_of_find? found

theorem CreateOrder.Concerns.step {orderData : NormalizedCreateOrderRequest} {call call' : CreateOrder}
    (concerns : call.Concerns orderData) (own : (Task.createOrder call).repliesOwn a = true)
    (h : OrderService.step env w call a = some (w', call')) : call'.Concerns orderData := by
  cases OrderService.Moves.of_step h with
  | answeredFromRow found closed response =>
    cases concerns
    have same := (Prod.mk.inj (Option.some.inj h)).2
    rw [← same]
    exact OrderService.afterFindOne_concerns fun row mem => World.findOne_orderId mem
  | prePersisted =>
    cases concerns
    exact OrderService.dispatch_concerns ..
  | inserted created =>
    cases concerns
    exact OrderService.dispatch_concerns ..
  | booked =>
    cases concerns
    have named : _ = _ := of_decide_eq_true own
    exact named
  | duplicate => trivial
  | audited => trivial
  | failed awaits error => trivial
  | _ => exact concerns

theorem TrackingService.nextEvent_concerns {x : String} {order : Order}
    {trackingResponse : NormalizedTrackingResponse} (own : trackingResponse.orderId = x)
    (events : List TrackingEventItem) : (nextEvent order trackingResponse events).Concerns x := by
  cases events <;> exact own

theorem TrackingService.updateOrderStatusIfChanged_concerns {x : String} {order : Order}
    {trackingResponse : NormalizedTrackingResponse} (own : trackingResponse.orderId = x) :
    (updateOrderStatusIfChanged order trackingResponse).Concerns x := by
  unfold updateOrderStatusIfChanged
  split
  · exact own
  · exact nextEvent_concerns own _

theorem TrackOrder.Concerns.step {x : String} {call call' : TrackOrder} (concerns : call.Concerns x)
    (own : (Task.trackOrder call).repliesOwn a = true)
    (h : TrackingService.step env w call a = some (w', call')) : call'.Concerns x := by
  cases TrackingService.Moves.of_step h with
  | read found awb nonempty registered =>
    cases concerns
    exact World.findOne_orderId found
  | tracked =>
    have named : _ = _ := of_decide_eq_true own
    exact TrackingService.updateOrderStatusIfChanged_concerns (named.trans concerns)
  | statusUpdated => exact TrackingService.nextEvent_concerns concerns _
  | eventFound recorded => exact TrackingService.nextEvent_concerns concerns _
  | eventMissing missing => exact concerns
  | eventAdded => exact TrackingService.nextEvent_concerns concerns _
  | declined why => trivial
  | refused => trivial
  | failed awaits => trivial

theorem CancellationService.afterFetch_concerns {orderId : String} {reason : Option String}
    {existing : Option Order} (own : ∀ row ∈ existing, row.orderId = orderId) :
    (afterFetch env orderId reason existing).Concerns orderId := by
  cases existing with
  | none => trivial
  | some row =>
    have named := own row rfl
    unfold afterFetch checkIfAlreadyCancelled validateCancellableStatus
    by_cases cancelled : row.status = .cancelled
    · simpa [cancelled, CancelOrder.Concerns] using named
    by_cases delivered : row.status = .delivered
    · simp [delivered, CancelOrder.Concerns]
    cases registered : env.registry.get env.js row.courierPartner with
    | error unknown => simp [cancelled, delivered, registered, CancelOrder.Concerns]
    | ok adapter => simpa [cancelled, delivered, registered, CancelOrder.Concerns] using named

theorem CancelOrder.Concerns.step {x : String} {call call' : CancelOrder} (concerns : call.Concerns x)
    (own : (Task.cancelOrder call).repliesOwn a = true)
    (h : CancellationService.step env w call a = some (w', call')) : call'.Concerns x := by
  cases CancellationService.Moves.of_step h with
  | read found notCancelled notDelivered registered =>
    cases concerns
    exact World.findOne_orderId found
  | alreadyCancelled response =>
    cases concerns
    have same := (Prod.mk.inj (Option.some.inj h)).2
    rw [← same]
    exact CancellationService.afterFetch_concerns fun row mem => World.findOne_orderId mem
  | agreed =>
    have named : _ = _ := of_decide_eq_true own
    exact named.trans concerns
  | committed => exact concerns
  | eventAdded => exact concerns
  | declined error => trivial
  | refused => trivial
  | failed awaits => trivial

theorem BulkOrder.Concerns.step {orders : List NormalizedCreateOrderRequest} {batchId : String}
    {call call' : BulkOrder} (concerns : call.Concerns orders batchId)
    (h : BulkOrderService.step w call a = some (w', call')) : call'.Concerns orders batchId := by
  cases BulkOrderService.Moves.of_step h with
  | batchCreated => exact concerns
  | prePersisted => exact concerns
  | notPrePersisted => exact concerns
  | summarized =>
    obtain ⟨rfl, rfl, named⟩ := concerns
    exact ⟨rfl, rfl, named⟩
  | failed awaits => trivial

theorem Request.Concerns.step {request : Request} {task task' : Task} (concerns : request.Concerns task)
    (own : task.repliesOwn a = true) (h : task.step env w a = some (w', task')) :
    request.Concerns task' := by
  cases request <;> cases task <;> try contradiction
  case createOrder.createOrder orderData call =>
    obtain ⟨⟨w', call'⟩, stepped, same⟩ := Option.map_eq_some_iff.mp h
    cases same
    exact CreateOrder.Concerns.step concerns own stepped
  case createBulkOrders.createBulkOrders orders batchId call =>
    obtain ⟨⟨w', call'⟩, stepped, same⟩ := Option.map_eq_some_iff.mp h
    cases same
    exact BulkOrder.Concerns.step concerns stepped
  case trackOrder.trackOrder orderId call =>
    obtain ⟨⟨w', call'⟩, stepped, same⟩ := Option.map_eq_some_iff.mp h
    cases same
    exact TrackOrder.Concerns.step concerns own stepped
  case cancelOrder.cancelOrder orderId reason call =>
    obtain ⟨⟨w', call'⟩, stepped, same⟩ := Option.map_eq_some_iff.mp h
    cases same
    exact CancelOrder.Concerns.step concerns own stepped

theorem State.itemResults_name {i : Nat} {orders : List NormalizedCreateOrderRequest}
    {results : List BulkOrderItemResult} (settled : s.itemResults i orders = some results) :
    resultsName orders results := by
  obtain ⟨length, each⟩ := mapM_option.mp settled
  rw [List.length_zipIdx] at length
  refine List.ext_getElem? fun k => ?_
  rw [List.getElem?_map, List.getElem?_map]
  cases item : orders[k]? with
  | none =>
    have beyond := List.getElem?_eq_none_iff.mp item
    rw [List.getElem?_eq_none (length.symm ▸ beyond)]
    rfl
  | some orderItem =>
    have inside : k < results.length := length.symm ▸ (List.getElem?_eq_some_iff.mp item).1
    have zipped : orders.zipIdx[k]? = some (orderItem, k) := by
      rw [List.getElem?_zipIdx, item, Nat.zero_add]
      rfl
    have here := each k _ zipped
    rw [List.getElem?_eq_getElem inside] at here ⊢
    obtain ⟨task, -, same⟩ := List.exists_of_findSome?_eq_some here.symm
    cases task with
    | bulkItem bulk index call =>
      simp only [Task.itemResult?] at same
      split at same
      next =>
        obtain ⟨named, partner⟩ := itemResult_named same
        simp only [Option.map_some, named, partner]
      next => contradiction
    | _ => contradiction

theorem Request.concerns_start (env : Env) (now : Int) {request : Request}
    (api : (Label.start request).isOwn = false) : request.Concerns (request.start env now) := by
  cases request with
  | createBulkOrders orders batchId => exact ⟨rfl, rfl⟩
  | reconcilePendingOrders => contradiction
  | _ => rfl

theorem Request.Concerns.next {request : Request} {task : Task} {j : Nat} (concerns : request.Concerns task)
    (here : s.tasks[j]? = some task) (own : s.repliesOwn l = true)
    (moved : (platform env).next s l = some t) :
    ∃ task', t.tasks[j]? = some task' ∧ request.Concerns task' := by
  by_cases settles : ∃ a, l = .settle j a
  · obtain ⟨a, rfl⟩ := settles
    obtain ⟨before, w', task', awaiting, stepped, rfl⟩ := State.next_settle moved
    cases here.symm.trans awaiting
    simp only [State.repliesOwn, here, Option.all_some] at own
    exact ⟨task', getElem?_set_of_some here, concerns.step own stepped⟩
  have moves := State.Moves.of_next moved
  by_cases starts : l = .startItem j
  · subst starts
    cases moves with
    | @itemStarted _ batchId orders currentIndex orderItem awaiting item =>
      cases here.symm.trans awaiting
      have inside := (List.getElem?_eq_some_iff.mp here).1
      refine ⟨.createBulkOrders (.executing batchId orders (currentIndex + 1)), ?_, ?_⟩
      · rw [List.getElem?_append_left (by rwa [List.length_set])]
        exact getElem?_set_of_some here
      · cases request <;> exact concerns
  by_cases collects : l = .collect j
  · subst collects
    cases moves with
    | collected awaiting all settled =>
      cases here.symm.trans awaiting
      refine ⟨_, getElem?_set_of_some here, ?_⟩
      cases request <;> try contradiction
      case createBulkOrders orders batchId =>
        obtain ⟨rfl, rfl⟩ := concerns
        exact ⟨rfl, rfl, State.itemResults_name settled⟩
  rcases moves.stays here (fun a same => settles ⟨a, same⟩) starts collects with
    there | ⟨dead, -, -, -, there⟩
  · exact ⟨task, there, concerns⟩
  · exact ⟨_, there, by cases request <;> trivial⟩

end CourierPlatform
