import CourierPlatform.Proofs.BatchRun
import CourierPlatform.Spec.BatchReport

/-! A batch leaves what its requests leave one after another. -/
namespace CourierPlatform
open Library OrderService

section
variable {env : Env} {outcomes : Outcomes} {w : World} {orders : List NormalizedCreateOrderRequest}
  {call : CreateOrder}

theorem World.undated_eventsOf (w : World) (x : String) :
    (w.events.map TrackingEvent.undated).filter (·.orderId = x) =
      (w.eventsOf x).map TrackingEvent.undated :=
  List.filter_map

theorem CreateOrder.undated_of_settled (settled : call.settled = true) : call.undated = call := by
  cases call <;> first | rfl | contradiction

theorem formatItemErrorResult_reports (orderItem : NormalizedCreateOrderRequest) (error : Thrown) :
    ∃ e, (BulkOrderService.formatItemErrorResult orderItem error).error = some e ∧
      e.Reports error := by
  refine ⟨_, rfl, ?_⟩
  cases error <;> exact ⟨rfl, rfl, rfl⟩

theorem itemResult_reports {orderItem : NormalizedCreateOrderRequest} {result : BulkOrderItemResult}
    (same : BulkOrderService.itemResult orderItem call = some result) :
    result.Reports orderItem call := by
  cases call with
  | resolved response =>
    cases Option.some.inj same
    refine ⟨rfl, rfl, .inl ⟨response, rfl⟩, fun other here => ?_, fun _ here => ?_⟩
    · cases CreateOrder.resolved.inj here
      exact ⟨rfl, rfl, rfl, rfl⟩
    · cases here
  | rejected error =>
    cases Option.some.inj same
    refine ⟨rfl, rfl, .inr ⟨error, rfl⟩, fun _ here => ?_, fun other here => ?_⟩
    · cases here
    · cases CreateOrder.rejected.inj here
      exact ⟨rfl, rfl, rfl, formatItemErrorResult_reports orderItem error⟩
  | _ => contradiction

/-- A batch of distinct orders: every run of it can go on to its return, and whenever it has
returned, the rows and the events are those that the requests leave one after another, and
each item is reported with the outcome that its request has then. -/
theorem bulk_equals_one_by_one {b₀ : State} {batchId : String}
    (distinct : (orders.map (·.orderId)).Nodup)
    (began : (platform env).next (.init w) (.start (.createBulkOrders orders batchId)) = some b₀) :
    (∀ b, (platform env).Reaches (fun s l => s.proceeds outcomes l = true) b₀ b →
      ∃ b' response, (platform env).Reaches (fun s l => s.proceeds outcomes l = true) b b' ∧
        b'.tasks[0]? = some (.createBulkOrders (.resolved response))) ∧
    ∀ b response t, (platform env).Reaches (fun s l => s.proceeds outcomes l = true) b₀ b →
      b.tasks[0]? = some (.createBulkOrders (.resolved response)) →
      (platform env).Reaches (fun s l => s.oneByOne outcomes orders l = true) (.init w) t →
      t.tasks.length = orders.length → t.idle = true →
      (∀ x, (b.world.findOne x).map Order.undated = (t.world.findOne x).map Order.undated) ∧
      (b.world.events.map TrackingEvent.undated).Perm (t.world.events.map TrackingEvent.undated) ∧
      response.results.length = orders.length ∧
      ∀ (k : Nat) (orderData : NormalizedCreateOrderRequest), orders[k]? = some orderData →
        ∃ result, response.results[k]? = some result ∧
          result.Reports orderData (t.callAt k orderData) := by
  have batch (b : State)
      (bulk : (platform env).Reaches (fun s l => s.proceeds outcomes l = true) b₀ b) :
      b.BatchRun env outcomes w orders :=
    bulk.invariant (State.BatchRun env outcomes w orders) (.of_started began)
      fun _ _ _ inv proceeds moved => inv.next distinct proceeds moved
  refine ⟨fun b bulk => (batch b bulk).returns distinct, ?_⟩
  intro b response t bulk returned single all idle
  obtain ⟨_, head, ran⟩ := (batch b bulk).bulk
  cases returned.symm.trans head
  have reported : b.Reported orders response.results := ran
  have together := (batch b bulk).toward
  have apart : t.Toward env outcomes w orders 0 :=
    single.invariant (State.Toward env outcomes w orders 0)
      ⟨fun _ _ found => (by cases found), fun _ _ _ => rfl, fun _ _ => ⟨rfl, rfl⟩⟩
      fun _ _ _ inv guard moved => inv.next_oneByOne distinct guard moved
  have same (k : Nat) (orderData : NormalizedCreateOrderRequest)
      (item : orders[k]? = some orderData) :
      (b.world.single orderData.orderId (b.callAt (k + 1) orderData)).undated =
        (t.world.single orderData.orderId (t.callAt k orderData)).undated ∧
      b.callAt (k + 1) orderData = t.callAt k orderData := by
    have inside := (List.getElem?_eq_some_iff.mp item).1
    have result := reported.result k orderData item
    rw [List.getElem?_eq_getElem (reported.length ▸ inside)] at result
    have settled := itemResult_settled result.symm
    obtain ⟨task, found⟩ : ∃ task, t.tasks[k]? = some task :=
      ⟨_, List.getElem?_eq_getElem (all ▸ inside)⟩
    obtain ⟨_, call, _, runs, -⟩ := apart.calls k task found
    have settled' : (t.callAt k orderData).settled = true := by
      rw [State.callAt_of_runs found runs]
      have ended := List.all_eq_true.mp idle task (List.mem_of_getElem? found)
      cases runs <;> exact ended
    have views := (together.comesTo item settled).trans (apart.comesTo item settled').symm
    refine ⟨views, ?_⟩
    rw [← CreateOrder.undated_of_settled settled, ← CreateOrder.undated_of_settled settled']
    exact congrArg SingleOrder.call views
  have tables (x : String) :
      (b.world.findOne x).map Order.undated = (t.world.findOne x).map Order.undated ∧
      (b.world.eventsOf x).map TrackingEvent.undated =
        (t.world.eventsOf x).map TrackingEvent.undated := by
    by_cases mem : x ∈ orders.map (·.orderId)
    · obtain ⟨orderData, listed, rfl⟩ := List.mem_map.mp mem
      obtain ⟨k, item⟩ := List.getElem?_of_mem listed
      have views := (same k orderData item).1
      exact ⟨congrArg SingleOrder.row views, congrArg SingleOrder.events views⟩
    · obtain ⟨row, events⟩ := together.others x mem
      obtain ⟨row', events'⟩ := apart.others x mem
      rw [row, row', events, events']
      exact ⟨rfl, rfl⟩
  refine ⟨fun x => (tables x).1, ?_, reported.length, fun k orderData item => ?_⟩
  · refine perm_of_filter TrackingEvent.orderId fun x => ?_
    rw [World.undated_eventsOf, World.undated_eventsOf, (tables x).2]
  · have inside := (List.getElem?_eq_some_iff.mp item).1
    have result := reported.result k orderData item
    rw [List.getElem?_eq_getElem (reported.length ▸ inside), (same k orderData item).2] at result
    exact ⟨_, List.getElem?_eq_getElem (reported.length ▸ inside), itemResult_reports result.symm⟩

end

theorem bulk_equals_one_by_one_interleaved :
    ∃ (b t : State) (response : BulkOrderResponse),
      (∀ x, (b.world.findOne x).map Order.undated = (t.world.findOne x).map Order.undated) ∧
      (b.world.events.map TrackingEvent.undated).Perm (t.world.events.map TrackingEvent.undated) ∧
      response.successfulOrders = 1 := by
  let first := parcel "A-1" "mock"
  let second := parcel "A-2" "mock"
  let outcomes : Outcomes := fun orderData =>
    if orderData.orderId = "A-1" then .ok (bookingReply orderData "MCK1")
    else .error (.error "timeout")
  obtain ⟨b₀, began⟩ : ∃ b₀, production.next (State.init .empty)
      (.start (.createBulkOrders [first, second] "B-1")) = some b₀ := ⟨_, rfl⟩
  have batch : (production.run (fun s l => s.proceeds outcomes l = true) b₀
      [.settle 0 .ok, .settle 0 (.dbError (.error "")), .startItem 0, .startItem 0, .settle 2 .ok,
        .settle 1 .ok, .settle 1 .ok, .settle 2 .ok, .settle 2 (.refused (.error "timeout")),
        .settle 1 (.booked (bookingReply first "MCK1")), .settle 2 .ok, .settle 1 .ok, .collect 0,
        .settle 0 .ok]).any (fun b => (b.tasks[0]?.bind Task.bulkResponse?).any
          (·.successfulOrders = 1)) = true := by
    cases Option.some.inj began
    decide
  obtain ⟨b, bulk, test⟩ := Machine.Reaches.of_run_any production _ b₀ _ _ batch
  obtain ⟨t, single, test'⟩ := Machine.Reaches.of_run_any production
    (fun s l => s.oneByOne outcomes [first, second] l = true) (State.init .empty)
    [.start (.createOrder first), .settle 0 .ok, .settle 0 .ok,
      .settle 0 (.booked (bookingReply first "MCK1")), .settle 0 .ok,
      .start (.createOrder second), .settle 1 .ok, .settle 1 .ok,
      .settle 1 (.refused (.error "timeout")), .settle 1 .ok]
    (fun t => t.tasks.length = 2 && t.idle) (by decide)
  obtain ⟨response, resolved, successful⟩ := (Option.any_eq_true _ _).mp test
  obtain ⟨task, found, returned⟩ := Option.bind_eq_some_iff.mp resolved
  rw [Task.eq_of_bulkResponse? returned] at found
  simp only [Bool.and_eq_true, decide_eq_true_eq] at test'
  have same := (bulk_equals_one_by_one (by decide) began).2 b response t bulk found single test'.1
    test'.2
  exact ⟨b, t, response, same.1, same.2.1, of_decide_eq_true successful⟩

end CourierPlatform
