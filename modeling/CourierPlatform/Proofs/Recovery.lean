import CourierPlatform.Model.OrderSchema
import CourierPlatform.Proofs.CoreTables
import CourierPlatform.Proofs.CrashSafety
import CourierPlatform.Proofs.Served

/-! A cycle of the worker that takes up an interrupted request records what the request would
have recorded. -/
namespace CourierPlatform
open Library OrderService

def Request.asksOnce (orderData : NormalizedCreateOrderRequest) : Request → Prop
  | createOrder request => request = orderData
  | createBulkOrders orders _ => orders.filter (·.orderId = orderData.orderId) = [orderData]
  | _ => False

/-- What the tables hold at the points of an interrupted request that found no row; the row
may have been inserted by its batch. -/
def SingleOrder.Interrupted (env : Env) (orderData : NormalizedCreateOrderRequest)
    (events : List TrackingEvent) (o : SingleOrder) : Prop :=
  ∃ answer prior, (prior = none ∨ ∃ now, prior = some (pendingOrder orderData now)) ∧
    CrashPoint env orderData answer prior events (pendingOrder orderData 0) o

section
variable {env : Env} {s t : State} {orderData : NormalizedCreateOrderRequest}
  {events : List TrackingEvent} {request : Request}

theorem State.Served.of_started (untouched : s.Untouched orderData.orderId)
    (asks : request.asksOnce orderData)
    (started : (platform env).next s (.start request) = some t) :
    t.Served orderData (createOrder orderData) ∧ t.world = s.world := by
  cases request with
  | createOrder request =>
    cases asks
    obtain ⟨alone, world⟩ := State.Alone.of_started untouched started
    exact ⟨.running alone, world⟩
  | createBulkOrders orders batchId =>
    cases Option.some.inj started
    refine ⟨.waiting List.getElem?_concat_length asks fun j task found other => ?_, rfl⟩
    rcases getElem?_concat_cases found with before | ⟨last, -⟩
    · exact untouched task (List.mem_of_getElem? before)
    · exact absurd last other
  | _ => exact asks.elim

namespace SingleOrder

variable {o after : SingleOrder} {now : Int} {a : Answer}

theorem prePersisted_interrupted {prior : Option Order}
    (own : prior = none ∨ ∃ now, prior = some (pendingOrder orderData now)) :
    prePersisted orderData (prior.map Order.undated) = pendingOrder orderData 0 := by
  rcases own with rfl | ⟨now, rfl⟩
  · rfl
  · simp [prePersisted, Order.assign, Order.write, pendingPatch, pendingOrder, Order.undated,
      UpdateMode.skips]

theorem CrashPoint.reanswer {answer other : Except Thrown NormalizedCreateOrderResponse}
    {prior : Option Order} {persisted : Order}
    (here : CrashPoint env orderData answer prior events persisted o)
    (stepped : o.step env now a = some after) (booking : a.booking? = some other) :
    CrashPoint env orderData other prior events persisted o := by
  obtain ⟨call, row, events'⟩ := o
  cases call with
  | createShipment request loaded adapter =>
    cases here with
    | pending own dispatches => exact .pending own dispatches
    | left settled => contradiction
    | failed refused settled => contradiction
    | between sqlite booked own ahead =>
      rcases ahead with settled | ⟨_, -, same⟩
      · contradiction
      · cases same
    | booked booked settled => contradiction
  | _ => cases a <;> contradiction

theorem Interrupted.step (here : o.Interrupted env orderData events)
    (stepped : o.step env now a = some after) : after.Interrupted env orderData events := by
  obtain ⟨answer, prior, own, here⟩ := here
  rw [← prePersisted_interrupted own] at here
  cases booking : a.booking? with
  | none =>
    refine ⟨answer, prior, own, ?_⟩
    rw [← prePersisted_interrupted own]
    exact here.step (fun _ some => by rw [booking] at some; contradiction) stepped
  | some other =>
    refine ⟨other, prior, own, ?_⟩
    rw [← prePersisted_interrupted own]
    refine (here.reanswer stepped booking).step (fun _ some => ?_) stepped
    exact Option.some.inj (some.symm.trans booking)

theorem Interrupted.inserted {row : Option Order} {stored : List TrackingEvent}
    (here : Interrupted env orderData events ⟨.findOne orderData, row, stored⟩) (now : Int) :
    Interrupted env orderData events
      ⟨.findOne orderData, row.or (some (pendingOrder orderData now)), stored⟩ := by
  obtain ⟨answer, prior, own, here⟩ := here
  cases here with
  | reading =>
    rcases own with rfl | ⟨earlier, rfl⟩
    · exact ⟨answer, _, .inr ⟨now, rfl⟩, .reading⟩
    · exact ⟨answer, _, .inr ⟨earlier, rfl⟩, .reading⟩
  | left settled => contradiction
  | pending own dispatches => contradiction
  | failed refused settled => contradiction
  | between sqlite booked own ahead =>
    rcases ahead with settled | ⟨_, -, same⟩
    · contradiction
    · cases same
  | booked booked settled => contradiction

theorem Interrupted.pendingRow {row : Order} (here : o.Interrupted env orderData events)
    (stored : o.row = some row) (status : row.status = .pendingDispatch)
    (unbooked : row.awbNumber = none) :
    row.undated = pendingOrder orderData 0 ∧ o.events = events := by
  obtain ⟨answer, prior, own, here⟩ := here
  have found (same : prior = some row) : row.undated = pendingOrder orderData 0 := by
    rcases own with rfl | ⟨now, rfl⟩
    · contradiction
    · cases same
      rfl
  cases here with
  | reading => exact ⟨found stored, rfl⟩
  | updating => exact ⟨found stored, rfl⟩
  | creating => exact ⟨found stored, rfl⟩
  | left => exact ⟨found stored, rfl⟩
  | pending own dispatches =>
    cases stored
    exact ⟨own, rfl⟩
  | failed refused settled own =>
    cases stored
    have failed := congrArg Order.status own
    simp [Order.undated, Order.assign, Order.write, failedPatch, status] at failed
  | between sqlite booked own ahead =>
    cases stored
    have awb := congrArg Order.awbNumber own
    simp [Order.undated, Order.assign, Order.write, createdPatch, unbooked] at awb
  | booked booked settled own tracked =>
    cases stored
    have awb := congrArg Order.awbNumber own
    simp [Order.undated, Order.assign, Order.write, createdPatch, unbooked] at awb

end SingleOrder

end
/-! ## The cycle that takes the row up -/

def Answer.recovers (reply : NormalizedCreateOrderResponse) : Answer → Bool
  | ok => true
  | booked answered => answered = reply
  | _ => false

def State.handles (s : State) (c : Nat) (x : String) : Bool :=
  s.tasks[c]?.any fun
    | .reconcile cycle => cycle.instances.head?.any (·.orderId = x)
    | _ => false

def State.recovers (s : State) (c : Nat) (x : String) (reply : NormalizedCreateOrderResponse) :
    Label → Bool
  | .settle i a => i ≠ c || !s.handles c x || a.recovers reply
  | _ => true

def recoveredRow (orderData : NormalizedCreateOrderRequest)
    (reply : NormalizedCreateOrderResponse) : Order :=
  (pendingOrder orderData 0).assign 0 (ReconciliationWorker.createdPatch reply 1)

/-- The event is the one of a booking, but for its text and its time. -/
structure TrackingEvent.Books (event : TrackingEvent) (orderData : NormalizedCreateOrderRequest)
    (reply : NormalizedCreateOrderResponse) : Prop where
  orderId : event.orderId = orderData.orderId
  awbNumber : event.awbNumber = reply.awbNumber
  status : event.status = .created
  location : event.location = some orderData.sender.city
  rawPayload : event.rawPayload = reply.rawResponse.bind jsonColumn

def spared (x : String) (orders : List Order) : Prop := ∀ order ∈ orders, order.orderId ≠ x

inductive Recovering (orderData : NormalizedCreateOrderRequest)
    (reply : NormalizedCreateOrderResponse) (events : List TrackingEvent) :
    Reconcile → Option Order → List TrackingEvent → Prop where
  | queued {cycle current before row after} (own : row.undated = pendingOrder orderData 0)
      (carried : cycle.instances = current :: (before ++ row :: after))
      (other : current.orderId ≠ orderData.orderId) (earlier : spared orderData.orderId before)
      (later : spared orderData.orderId after) :
      Recovering orderData reply events cycle (some row) events
  | dispatching {row adapter rest count} (own : row.undated = pendingOrder orderData 0)
      (later : spared orderData.orderId rest) :
      Recovering orderData reply events (.createShipment row 1 adapter rest count) (some row) events
  | answered {row rest count} (own : row.undated = pendingOrder orderData 0)
      (later : spared orderData.orderId rest) :
      Recovering orderData reply events (.updateCreated row 1 reply rest count) (some row) events
  | recorded {row loaded rest count} (own : row.undated = recoveredRow orderData reply)
      (same : loaded.undated = recoveredRow orderData reply)
      (later : spared orderData.orderId rest) :
      Recovering orderData reply events (.createEvent loaded 1 reply rest count) (some row) events
  | recovered {cycle row event} (own : row.undated = recoveredRow orderData reply)
      (books : event.Books orderData reply) (later : spared orderData.orderId cycle.instances) :
      Recovering orderData reply events cycle (some row) (events ++ [event])
  | rejected {error row stored} :
      Recovering orderData reply events (.rejected error) row stored

section
variable {env : Env} {orderData : NormalizedCreateOrderRequest}
  {reply : NormalizedCreateOrderResponse} {events stored : List TrackingEvent}
  {cycle cycle' : Reconcile} {row : Option Order} {w w' : World} {a : Answer}

namespace ReconciliationWorker

theorem recovering_nextOrder {loaded : Order} {before after : List Order} {count : Nat}
    (registered : env.registry.has env.js orderData.courierPartner = true)
    (own : loaded.undated = pendingOrder orderData 0)
    (earlier : spared orderData.orderId before) (later : spared orderData.orderId after) :
    Recovering orderData reply events (nextOrder env count (before ++ loaded :: after))
      (some loaded) events := by
  cases before with
  | nil =>
    have partner : loaded.courierPartner = orderData.courierPartner :=
      congrArg Order.courierPartner own
    have retries : loaded.retryCount = 0 := congrArg Order.retryCount own
    rw [← partner, CourierRegistry.has_eq_isOk] at registered
    rw [List.nil_append, nextOrder, reconcileSingleOrder, CourierRegistry.has_eq_isOk]
    cases found : env.registry.get env.js loaded.courierPartner with
    | error unknown =>
      rw [found] at registered
      contradiction
    | ok adapter =>
      simp only [Except.isOk, Except.toBool, if_true, retries]
      exact .dispatching own later
  | cons current before =>
    refine .queued own (nextOrder_instances ..) (earlier current List.mem_cons_self)
      (fun order mem => earlier order (List.mem_cons_of_mem _ mem)) later

theorem Moves.frame {x : String} (moved : Moves env w cycle a w' cycle')
    (other : ∀ order ∈ cycle.instances.head?, order.orderId ≠ x) :
    w'.findOne x = w.findOne x ∧ w'.eventsOf x = w.eventsOf x := by
  cases moved with
  | unsupported => exact ⟨w.findOne_updateOrder_other x (other _ rfl), rfl⟩
  | recorded => exact ⟨w.findOne_updateOrder_other x (other _ rfl), rfl⟩
  | caught => exact ⟨w.findOne_updateOrder_other x (other _ rfl), rfl⟩
  | @recovered order nextRetry reply rest count =>
    refine ⟨rfl, ?_⟩
    unfold World.eventsOf World.createEvent
    rw [List.filter_append]
    simp [recoveredEvent, other order rfl]
  | _ => exact ⟨rfl, rfl⟩

theorem Moves.rest {order : Order} {rest : List Order} (moved : Moves env w cycle a w' cycle')
    (carried : cycle.instances = order :: rest) :
    (∃ count, cycle' = nextOrder env count rest) ∨
      (∃ order', order'.orderId = order.orderId ∧ cycle'.instances = order' :: rest) ∨
      ∃ error, cycle' = .rejected error := by
  cases moved with
  | selected => contradiction
  | aborted awaits => exact .inr (.inr ⟨_, rfl⟩)
  | unsupported => cases carried; exact .inl ⟨_, rfl⟩
  | recovered => cases carried; exact .inl ⟨_, rfl⟩
  | caught => cases carried; exact .inl ⟨_, rfl⟩
  | _ =>
    cases carried
    refine .inr (.inl ⟨_, ?_, rfl⟩)
    rfl

end ReconciliationWorker

theorem spared_instances {x : String} :
    spared x cycle.instances ↔ x ∉ (Task.reconcile cycle).touches := by
  simp [spared, Task.touches, Task.named, Task.instances]

theorem recoveredEvent_books {loaded : Order} {now : Int} (city : orderData.sender.city ≠ "")
    (same : loaded.undated = recoveredRow orderData reply) :
    (ReconciliationWorker.recoveredEvent env loaded reply now).Books orderData reply where
  orderId := congrArg Order.orderId same
  awbNumber := rfl
  status := rfl
  location := by
    have sender : loaded.senderDetails = orderData.sender := congrArg Order.senderDetails same
    simp [ReconciliationWorker.recoveredEvent, sender, orDefault, city]
  rawPayload := rfl

theorem Recovering.step (here : Recovering orderData reply events cycle
      (w.findOne orderData.orderId) (w.eventsOf orderData.orderId))
    (moved : ReconciliationWorker.Moves env w cycle a w' cycle')
    (registered : env.registry.has env.js orderData.courierPartner = true)
    (city : orderData.sender.city ≠ "")
    (listed : ∀ orderIds, a = .rows orderIds → orderData.orderId ∉ orderIds)
    (good : (∃ order ∈ cycle.instances.head?, order.orderId = orderData.orderId) →
      a.recovers reply = true) :
    Recovering orderData reply events cycle' (w'.findOne orderData.orderId)
      (w'.eventsOf orderData.orderId) := by
  generalize found : w.findOne orderData.orderId = row at here
  generalize logged : w.eventsOf orderData.orderId = stored at here
  cases here with
  | @queued _ current before loaded after own carried other earlier later =>
    have frame := moved.frame (x := orderData.orderId) (by
      rw [carried]
      rintro order mem
      cases mem
      exact other)
    rw [frame.1, frame.2, found, logged]
    rcases moved.rest carried with ⟨count, rfl⟩ | ⟨order', same, carried'⟩ | ⟨error, rfl⟩
    · exact ReconciliationWorker.recovering_nextOrder registered own earlier later
    · exact .queued own carried' (same ▸ other) earlier later
    · exact .rejected
  | dispatching own later =>
    have orderId := congrArg Order.orderId own
    have fits := good ⟨_, rfl, orderId⟩
    cases moved with
    | booked =>
      cases of_decide_eq_true fits
      simp only [World.record_findOne, found]
      exact logged ▸ .answered own later
    | refused => contradiction
    | aborted => contradiction
  | @answered loaded rest count own later =>
    have orderId : loaded.orderId = orderData.orderId := congrArg Order.orderId own
    have fits := good ⟨_, rfl, orderId⟩
    cases moved with
    | recorded =>
      rw [w.findOne_updateOrder_own _ orderId, found]
      refine logged ▸ .recorded (SingleOrder.undated_write own own) ?_ later
      rw [Order.assign_undated, own]
      rfl
    | recordLost => contradiction
    | aborted => contradiction
  | @recorded row loaded rest count own same later =>
    have orderId : loaded.orderId = orderData.orderId := congrArg Order.orderId same
    have fits := good ⟨_, rfl, orderId⟩
    cases moved with
    | recovered =>
      rw [World.createEvent_findOne, found, World.eventsOf_createEvent orderId, logged]
      refine .recovered own (recoveredEvent_books city same) ?_
      rwa [ReconciliationWorker.nextOrder_instances]
    | eventLost => contradiction
    | aborted => contradiction
  | recovered own books later =>
    have frame := moved.frame (x := orderData.orderId) fun order mem =>
      later order (List.mem_of_mem_head? mem)
    rw [frame.1, frame.2, found, logged]
    refine .recovered own books (spared_instances.mpr ?_)
    exact (Task.Moves.reconcile moved).untouched (spared_instances.mp later) listed
  | rejected =>
    cases moved with
    | aborted awaits => contradiction

end

structure State.TakesUp (s : State) (c : Nat) (orderData : NormalizedCreateOrderRequest)
    (reply : NormalizedCreateOrderResponse) (events : List TrackingEvent) : Prop where
  here : ∃ cycle, s.tasks[c]? = some (.reconcile cycle) ∧
    Recovering orderData reply events cycle (s.world.findOne orderData.orderId)
      (s.world.eventsOf orderData.orderId)
  others : ∀ (j : Nat) (task : Task), s.tasks[j]? = some task → j ≠ c →
    orderData.orderId ∉ task.touches

section
variable {env : Env} {s t : State} {l : Label} {c : Nat} {orderIds : List String}
  {orderData : NormalizedCreateOrderRequest} {reply : NormalizedCreateOrderResponse}
  {events : List TrackingEvent}

theorem State.TakesUp.of_selected {row : Order} (untouched : s.Untouched orderData.orderId)
    (stored : s.world.findOne orderData.orderId = some row)
    (own : row.undated = pendingOrder orderData 0)
    (registered : env.registry.has env.js orderData.courierPartner = true)
    (listed : orderData.orderId ∈ orderIds)
    (selected : (platform env).next s (.settle c (.rows orderIds)) = some t) :
    t.TakesUp c orderData reply (s.world.eventsOf orderData.orderId) := by
  obtain ⟨task, w', task', awaiting, stepped, rfl⟩ := State.next_settle selected
  refine ⟨?_, fun j task found other => ?_⟩
  · cases Task.Moves.of_step stepped with
    | reconcile moved =>
      cases moved with
      | selected result =>
        refine ⟨_, getElem?_set_of_some awaiting, ?_⟩
        obtain ⟨before, after, rfl⟩ := List.append_of_mem listed
        have distinct := List.nodup_middle.mp (ReconciliationWorker.isResult_iff.mp result).1
        have off := (List.nodup_cons.mp distinct).1
        have spares {ids : List String} (off : orderData.orderId ∉ ids) :
            spared orderData.orderId (ids.filterMap s.world.findOne) := by
          rintro order mem own
          exact off (own ▸ (ReconciliationWorker.mem_result mem).1)
        rw [List.filterMap_append, List.filterMap_cons_some stored, stored]
        exact ReconciliationWorker.recovering_nextOrder registered own
          (spares fun mem => off (List.mem_append_left _ mem))
          (spares fun mem => off (List.mem_append_right _ mem))
    | createOrder moved => cases moved
    | bulkItem moved => cases moved
    | createBulkOrders moved => cases moved
    | trackOrder moved => cases moved
    | cancelOrder moved => cases moved
  · rw [List.getElem?_set_ne (Ne.symm other)] at found
    exact untouched task (List.mem_of_getElem? found)

theorem State.TakesUp.next (takesUp : s.TakesUp c orderData reply events)
    (registered : env.registry.has env.js orderData.courierPartner = true)
    (city : orderData.sender.city ≠ "") (spares : l.spares orderData.orderId = true)
    (guard : s.recovers c orderData.orderId reply l = true)
    (moved : (platform env).next s l = some t) : t.TakesUp c orderData reply events := by
  have moves := State.Moves.of_next moved
  obtain ⟨cycle, here, recovering⟩ := takesUp.here
  refine ⟨?_, moves.others spares takesUp.others ?_⟩
  · by_cases settles : ∃ a, l = .settle c a
    · obtain ⟨a, rfl⟩ := settles
      cases moves with
      | settled awaiting step =>
        cases here.symm.trans awaiting
        cases step with
        | reconcile step =>
          refine ⟨_, getElem?_set_of_some here, ?_⟩
          refine recovering.step step registered city ?_ ?_
          · rintro orderIds rfl
            exact of_decide_eq_true spares
          · rintro ⟨order, current, own⟩
            have handles : s.handles c orderData.orderId = true := by
              simp only [State.handles, here, Option.any_some]
              exact (Option.any_eq_true _ _).mpr ⟨order, current, decide_eq_true own⟩
            simpa [State.recovers, handles] using guard
    · have off (a : Answer) : l ≠ .settle c a := fun same => settles ⟨a, same⟩
      have rows := moves.frame spares (by
        rintro j a task rfl found
        exact takesUp.others j task found fun same => settles ⟨a, same ▸ rfl⟩)
      rcases moves.keeps_task here (fun _ => Task.noConfusion) off with there | ⟨-, api, -⟩
      · exact ⟨cycle, there, by rwa [rows.1, rows.2]⟩
      · contradiction
  · rintro rfl task found
    cases moves with
    | itemStarted awaiting item => cases here.symm.trans awaiting

theorem recoveredRow_eq (created : reply.status = .created) :
    recoveredRow orderData reply =
      { (pendingOrder orderData 0).assign 0 (createdPatch reply) with retryCount := 1 } := by
  simp [recoveredRow, Order.assign, Order.write, ReconciliationWorker.createdPatch, createdPatch,
    UpdateMode.skips, created]

theorem createOrder_records {u₀ u : State}
    (registered : env.registry.has env.js orderData.courierPartner = true)
    (absent : s.world.findOne orderData.orderId = none)
    (untouched : s.Untouched orderData.orderId)
    (began : (platform env).next s (.start (.createOrder orderData)) = some u₀)
    (uninterrupted : (platform env).Reaches (fun _ l => l.spares orderData.orderId = true ∧
      l.answers s.tasks.length (.ok reply) = true ∧ l.faultless = true) u₀ u)
    (returned : u.hasReturned s.tasks.length = true) :
    ∃ booked tracked, u.world.findOne orderData.orderId = some booked ∧
      booked.undated = (pendingOrder orderData 0).assign 0 (createdPatch reply) ∧
      u.world.eventsOf orderData.orderId = s.world.eventsOf orderData.orderId ++ [tracked] ∧
      tracked.undated = initialTracking env orderData reply (pendingOrder orderData 0) 0 := by
  obtain ⟨call, comesTo⟩ := createOrder_comes_to untouched began uninterrupted returned
  have world : u₀.world = s.world := by
    cases Option.some.inj began
    rfl
  have grown : s.world.events <+: u.world.events := by
    refine uninterrupted.invariant (fun u => s.world.events <+: u.world.events) ?_ ?_
    · rw [world]
    · exact fun _ _ _ inv _ moved => inv.trans (State.Moves.of_next moved).events
  obtain ⟨added, same⟩ := grown
  have events : u.world.eventsOf orderData.orderId = s.world.eventsOf orderData.orderId ++
      added.filter fun event => event.orderId = orderData.orderId := by
    rw [World.eventsOf, ← same, List.filter_append, World.eventsOf]
  obtain ⟨adapter, found⟩ : ∃ adapter,
      env.registry.get env.js orderData.courierPartner = .ok adapter := by
    rw [CourierRegistry.has_eq_isOk] at registered
    cases found : env.registry.get env.js orderData.courierPartner with
    | error unknown => rw [found] at registered; contradiction
    | ok adapter => exact ⟨adapter, rfl⟩
  rw [absent] at comesTo
  simp only [Option.map_none, SingleOrder.outcome, checkIdempotentResponse, SingleOrder.dispatched,
    found, prePersisted, SingleOrder.undated, World.single, SingleOrder.mk.injEq,
    Option.map_eq_some_iff] at comesTo
  obtain ⟨-, ⟨booked, stored, row⟩, log⟩ := comesTo
  rw [events, List.map_append] at log
  obtain ⟨tracked, only, undated⟩ := List.map_eq_singleton_iff.mp (List.append_cancel_left log)
  exact ⟨booked, tracked, stored, row, by rw [events, only], undated⟩

/-- A request for a new order is interrupted, alone or in a batch, before its booking is
recorded; a later cycle selects its row and the courier answers the stored payload with
`reply`. The row becomes the one that the uninterrupted request records with that reply, but
for the retry count and the time stamps, and one event is added, which agrees with the one of
the uninterrupted request but for its text and its time. -/
theorem recovery_matches_booking {formats : Formats} {request : Request} {row : Order}
    {s₀ s₁ s₂ s₃ s₄ u₀ u : State} (valid : createOrderSchema formats orderData = true)
    (registered : env.registry.has env.js orderData.courierPartner = true)
    (created : reply.status = .created)
    (absent : s₀.world.findOne orderData.orderId = none)
    (untouched : s₀.Untouched orderData.orderId) (asks : request.asksOnce orderData)
    (started : (platform env).next s₀ (.start request) = some s₁)
    (interrupted : (platform env).Reaches (fun _ l => l.spares orderData.orderId = true) s₁ s₂)
    (stopped : s₂.Untouched orderData.orderId)
    (stored : s₂.world.findOne orderData.orderId = some row)
    (status : row.status = .pendingDispatch) (unbooked : row.awbNumber = none)
    (waited : (platform env).Reaches (fun _ l => l.spares orderData.orderId = true) s₂ s₃)
    (listed : orderData.orderId ∈ orderIds)
    (selected : (platform env).next s₃ (.settle c (.rows orderIds)) = some s₄)
    (recovered : (platform env).Reaches (fun s l => l.spares orderData.orderId = true ∧
      s.recovers c orderData.orderId reply l = true) s₄ t)
    (returned : ∃ count, t.tasks[c]? = some (.reconcile (.resolved count)))
    (began : (platform env).next s₀ (.start (.createOrder orderData)) = some u₀)
    (uninterrupted : (platform env).Reaches (fun _ l => l.spares orderData.orderId = true ∧
      l.answers s₀.tasks.length (.ok reply) = true ∧ l.faultless = true) u₀ u)
    (completed : u.hasReturned s₀.tasks.length = true) :
    ∃ row' booked event tracked, t.world.findOne orderData.orderId = some row' ∧
      u.world.findOne orderData.orderId = some booked ∧
      row'.undated = { booked.undated with retryCount := 1 } ∧ booked.retryCount = 0 ∧
      t.world.eventsOf orderData.orderId = s₀.world.eventsOf orderData.orderId ++ [event] ∧
      u.world.eventsOf orderData.orderId = s₀.world.eventsOf orderData.orderId ++ [tracked] ∧
      event.orderId = tracked.orderId ∧ event.awbNumber = tracked.awbNumber ∧
      event.status = tracked.status ∧ event.location = tracked.location ∧
      event.rawPayload = tracked.rawPayload := by
  have city := addressSchema_city (createOrderSchema_sender valid)
  obtain ⟨served, world⟩ := State.Served.of_started untouched asks started
  obtain ⟨call, here, -⟩ := served.invariant
    (SingleOrder.Interrupted env orderData (s₀.world.eventsOf orderData.orderId))
    ⟨.error (.error ""), none, .inl rfl, by rw [World.single, world, absent]; exact .reading⟩
    (fun _ _ _ _ here stepped => here.step stepped)
    (fun now _ _ here => here.inserted now) (fun _ _ allowed => allowed) interrupted
  obtain ⟨own, noEvents⟩ := here.pendingRow stored status unbooked
  obtain ⟨idle, kept, unlogged⟩ := waited.invariant
    (fun s => s.Untouched orderData.orderId ∧
      s.world.findOne orderData.orderId = s₂.world.findOne orderData.orderId ∧
      s.world.eventsOf orderData.orderId = s₂.world.eventsOf orderData.orderId)
    ⟨stopped, rfl, rfl⟩ fun _ _ _ inv spares moved => by
      obtain ⟨untouched, row, events⟩ := inv.1.next (.of_next moved) spares
      exact ⟨untouched, row.trans inv.2.1, events.trans inv.2.2⟩
  have takesUp : s₄.TakesUp c orderData reply (s₀.world.eventsOf orderData.orderId) := by
    have before : s₃.world.eventsOf orderData.orderId = s₀.world.eventsOf orderData.orderId :=
      unlogged.trans noEvents
    rw [← before]
    exact .of_selected idle (kept.trans stored) own registered listed selected
  obtain ⟨⟨cycle, found, recovering⟩, -⟩ := recovered.invariant
    (fun s => s.TakesUp c orderData reply (s₀.world.eventsOf orderData.orderId)) takesUp
    fun _ _ _ inv allowed moved => inv.next registered city allowed.1 allowed.2 moved
  obtain ⟨booked, tracked, there, records, log, event⟩ :=
    createOrder_records registered absent untouched began uninterrupted completed
  obtain ⟨count, finished⟩ := returned
  cases found.symm.trans finished
  generalize final : t.world.findOne orderData.orderId = row' at recovering
  generalize logged : t.world.eventsOf orderData.orderId = stored' at recovering
  cases recovering with
  | queued own carried => contradiction
  | @recovered _ row' event' own books later =>
    refine ⟨row', booked, event', tracked, rfl, there, ?_, ?_, rfl, log, ?_⟩
    · rw [own, recoveredRow_eq created, records]
    · exact congrArg Order.retryCount records
    · exact ⟨books.orderId.trans (congrArg TrackingEvent.orderId event).symm,
        books.awbNumber.trans (congrArg TrackingEvent.awbNumber event).symm,
        books.status.trans (congrArg TrackingEvent.status event).symm,
        books.location.trans (congrArg TrackingEvent.location event).symm,
        books.rawPayload.trans (congrArg TrackingEvent.rawPayload event).symm⟩

end

theorem recovery_matches_booking_batch :
    ∃ (t u : State) (row' booked : Order), t.world.findOne "A-1" = some row' ∧
      u.world.findOne "A-1" = some booked ∧
      row'.undated = { booked.undated with retryCount := 1 } := by
  let orderData := parcel "A-1" "mock"
  let reply := bookingReply orderData "MCK1"
  obtain ⟨s₁, started⟩ : ∃ s₁, production.next (State.init .empty)
      (.start (.createBulkOrders [orderData] "B-1")) = some s₁ := ⟨_, rfl⟩
  obtain ⟨u₀, began⟩ : ∃ u₀, production.next (State.init .empty)
      (.start (.createOrder orderData)) = some u₀ := ⟨_, rfl⟩
  have recovers : (production.run (fun _ l => l.spares "A-1" = true) s₁
      [.settle 0 .ok, .settle 0 .ok, .crash [0]]).any (fun s₂ =>
        (s₂.tasks.all fun task => "A-1" ∉ task.touches) &&
        ((s₂.world.findOne "A-1").any fun row =>
          row.status = .pendingDispatch && row.awbNumber = none) &&
        (production.run (fun _ l => l.spares "A-1" = true) s₂
          [.tick 60001, .start .reconcilePendingOrders]).any fun s₃ =>
            (production.next s₃ (.settle 1 (.rows ["A-1"]))).any fun s₄ =>
              (production.run (fun s l => l.spares "A-1" = true ∧
                s.recovers 1 "A-1" reply l = true) s₄
                [.settle 1 (.booked reply), .settle 1 .ok, .settle 1 .ok]).any fun t =>
                  (t.tasks[1]?.bind Task.recovered?).isSome) = true := by
    cases Option.some.inj started
    decide
  have books : (production.run (fun _ l => l.spares "A-1" = true ∧
      l.answers 0 (.ok reply) = true ∧ l.faultless = true) u₀
      [.settle 0 .ok, .settle 0 .ok, .settle 0 (.booked reply), .settle 0 .ok]).any
      (State.hasReturned · 0) = true := by
    cases Option.some.inj began
    decide
  obtain ⟨u, uninterrupted, completed⟩ := Machine.Reaches.of_run_any production _ u₀ _ _ books
  obtain ⟨s₂, interrupted, test⟩ := Machine.Reaches.of_run_any production _ s₁ _ _ recovers
  simp only [Bool.and_eq_true] at test
  obtain ⟨⟨stopped, pending⟩, later⟩ := test
  obtain ⟨row, stored, isPending⟩ := (Option.any_eq_true _ _).mp pending
  simp only [Bool.and_eq_true, decide_eq_true_eq] at isPending
  obtain ⟨s₃, waited, later⟩ := Machine.Reaches.of_run_any production _ s₂ _ _ later
  obtain ⟨s₄, selected, later⟩ := (Option.any_eq_true _ _).mp later
  obtain ⟨t, recovered, returns⟩ := Machine.Reaches.of_run_any production _ s₄ _ _ later
  have returned : ∃ count, t.tasks[1]? = some (.reconcile (.resolved count)) := by
    obtain ⟨count, counts⟩ := Option.isSome_iff_exists.mp returns
    obtain ⟨task, found, recovered⟩ := Option.bind_eq_some_iff.mp counts
    exact ⟨count, Task.eq_of_recovered? recovered ▸ found⟩
  have untouched : s₂.Untouched "A-1" := fun task mem =>
    of_decide_eq_true (List.all_eq_true.mp stopped task mem)
  have asks : (Request.createBulkOrders [orderData] "B-1").asksOnce orderData := rfl
  have valid : createOrderSchema ⟨fun _ => true, fun _ => true⟩ orderData = true := by decide
  obtain ⟨row', booked, event, tracked, there, recorded, same, -⟩ := recovery_matches_booking valid
    (by decide) rfl rfl (fun _ mem => absurd mem List.not_mem_nil) asks started interrupted
    untouched stored isPending.1 isPending.2 waited (List.mem_singleton_self _) selected recovered
    returned began uninterrupted completed
  exact ⟨t, u, row', booked, there, recorded, same⟩

end CourierPlatform
