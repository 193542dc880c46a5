import CourierPlatform.Proofs.CoreTables
import CourierPlatform.Proofs.Exchanges

/-! What clients see of an order, one response after another. -/
namespace CourierPlatform
open Js Library

def ResponseData.orderId? : ResponseData → Option String
  | createOrder response => some response.orderId
  | tracking response => some response.orderId
  | cancel response => some response.orderId
  | order row _ => some row.orderId
  | _ => none

def ResponseBody.data? : ResponseBody → Option ResponseData
  | success data _ _ => some data
  | _ => none

/-- The database has the order that the data are about, and still all that they have shown of it. -/
structure World.Shows (w : World) (data : ResponseData) : Prop where
  row : ∀ x ∈ data.orderId?, ∃ row, w.findOne x = some row
  view : ∀ order trackingEvents, data = .order order trackingEvents →
    ∃ row, w.findOne order.orderId = some row ∧ row.details = order.details ∧
      trackingEvents.Subperm (w.events.filter fun event => event.orderId = order.orderId)

def Exchange.reads? (exchange : Exchange) : Option String :=
  exchange.awaited.bind fun
    | .findOrder orderId => some orderId
    | _ => none

theorem Exchange.eq_of_reads? {exchange : Exchange} {x : String} (h : exchange.reads? = some x) :
    exchange.awaited = some (.findOrder x) := by
  obtain ⟨awaited, awaits, same⟩ := Option.bind_eq_some_iff.mp h
  cases awaited <;> cases same
  exact awaits

/-- The order that the call has found, stored or got a reply about. -/
def CreateOrder.known? : CreateOrder → Option String
  | updateExisting orderData _ => some orderData.orderId
  | createShipment orderData _ _ => some orderData.orderId
  | saveUpdate _ courierResponse _ => some courierResponse.orderId
  | saveEvent _ courierResponse _ => some courierResponse.orderId
  | resolved response => some response.orderId
  | _ => none

def TrackOrder.known? : TrackOrder → Option String
  | trackShipment order _ _ => some order.orderId
  | updateStatus _ trackingResponse => some trackingResponse.orderId
  | findEvent _ trackingResponse _ _ => some trackingResponse.orderId
  | createEvent _ trackingResponse _ _ => some trackingResponse.orderId
  | resolved response => some response.orderId
  | _ => none

def CancelOrder.known? : CancelOrder → Option String
  | cancelShipment order _ _ => some order.orderId
  | updateCancelled _ cancelResponse _ => some cancelResponse.orderId
  | createEvent _ cancelResponse _ => some cancelResponse.orderId
  | resolved response => some response.orderId
  | _ => none

def Task.known? : Task → Option String
  | createOrder call => call.known?
  | trackOrder call => call.known?
  | cancelOrder call => call.known?
  | _ => none

def World.Has (w : World) (named : Option String) : Prop := ∀ x ∈ named, ∃ row, w.findOne x = some row

variable {env : Env} {w w' : World} {a : Answer}

theorem World.KeepsDetails.has {named : Option String} (kept : w.KeepsDetails w') (h : w.Has named) :
    w'.Has named := by
  intro x mem
  obtain ⟨row, stored⟩ := h x mem
  obtain ⟨row', stored', -⟩ := kept x row stored
  exact ⟨row', stored'⟩

theorem World.has_of_findOne {x : String} {row : Order} (found : w.findOne x = some row) :
    w.Has (some x) := by
  rintro _ ⟨⟩
  exact ⟨row, found⟩

theorem World.has_none : w.Has none := fun _ mem => nomatch mem

/-! ## Calls -/

theorem OrderService.dispatch_known? {orderData : NormalizedCreateOrderRequest} {persistedOrder : Order}
    (h : w.Has (some orderData.orderId)) :
    w.Has (dispatchWithFailureAudit env orderData persistedOrder).known? := by
  rcases dispatch_cases env orderData persistedOrder with ⟨unknown, same⟩ | ⟨adapter, -, same⟩ <;>
    rw [same]
  · exact World.has_none
  · exact h

theorem OrderService.afterFindOne_known? {orderData : NormalizedCreateOrderRequest} :
    w.Has (afterFindOne orderData (w.findOne orderData.orderId)).known? := by
  cases found : w.findOne orderData.orderId with
  | none => exact World.has_none
  | some row =>
    have known := World.has_of_findOne found
    cases answered : checkIdempotentResponse (some row) with
    | none => rwa [afterFindOne, answered]
    | some response =>
      rw [afterFindOne, answered]
      simp only [checkIdempotentResponse] at answered
      split at answered
      next =>
        cases answered
        rw [← World.findOne_orderId found] at known
        exact known
      next => contradiction

theorem CreateOrder.known?_step {call call' : CreateOrder} (h : w.Has call.known?)
    (own : (Task.createOrder call).repliesOwn a = true)
    (stepped : OrderService.step env w call a = some (w', call')) : w'.Has call'.known? := by
  have moved := OrderService.Moves.of_step stepped
  have kept := moved.keepsDetails
  cases moved with
  | @answeredFromRow orderData row found closed response =>
    have same := (Prod.mk.inj (Option.some.inj stepped)).2
    rw [← same]
    exact OrderService.afterFindOne_known?
  | readOpen found isOpen => exact World.has_of_findOne found
  | prePersisted => exact OrderService.dispatch_known? (kept.has h)
  | @inserted orderData _ inserted =>
    have stored : w'.findOne orderData.orderId = some (OrderService.pendingOrder orderData w.now) := by
      rw [World.findOne_createOrder? _ inserted]
      exact if_pos rfl
    exact OrderService.dispatch_known? (World.has_of_findOne stored)
  | booked =>
    have named : _ = _ := of_decide_eq_true own
    change w.Has (some _)
    rw [named]
    exact h
  | savedSqlite dialect => exact kept.has h
  | savedPostgres dialect => exact kept.has h
  | eventSaved => exact kept.has h
  | _ => exact World.has_none

theorem TrackOrder.known?_nextEvent {order : Order} {trackingResponse : NormalizedTrackingResponse}
    (events : List TrackingEventItem) :
    (TrackingService.nextEvent order trackingResponse events).known? = some trackingResponse.orderId := by
  cases events <;> rfl

theorem TrackOrder.known?_updateOrderStatusIfChanged (order : Order)
    (trackingResponse : NormalizedTrackingResponse) :
    (TrackingService.updateOrderStatusIfChanged order trackingResponse).known? =
      some trackingResponse.orderId := by
  unfold TrackingService.updateOrderStatusIfChanged
  split
  · rfl
  · exact TrackOrder.known?_nextEvent _

theorem TrackOrder.known?_step {call call' : TrackOrder} (h : w.Has call.known?)
    (own : (Task.trackOrder call).repliesOwn a = true)
    (moved : TrackingService.Moves env w call a w' call') : w'.Has call'.known? := by
  have kept : w.KeepsDetails w' := by
    cases moved with
    | statusUpdated => exact .updateOrder _ _
    | _ => exact .refl w
  cases moved with
  | read found awb nonempty registered =>
    rw [← World.findOne_orderId found] at found
    exact World.has_of_findOne found
  | tracked =>
    have named : _ = _ := of_decide_eq_true own
    rw [TrackOrder.known?_updateOrderStatusIfChanged, named]
    exact h
  | statusUpdated =>
    rw [TrackOrder.known?_nextEvent]
    exact kept.has h
  | eventFound recorded =>
    rw [TrackOrder.known?_nextEvent]
    exact h
  | eventMissing missing => exact h
  | eventAdded =>
    rw [TrackOrder.known?_nextEvent]
    exact kept.has h
  | _ => exact World.has_none

theorem CancelOrder.known?_step {call call' : CancelOrder} (h : w.Has call.known?)
    (own : (Task.cancelOrder call).repliesOwn a = true)
    (stepped : CancellationService.step env w call a = some (w', call')) : w'.Has call'.known? := by
  have moved := CancellationService.Moves.of_step stepped
  have kept : w.KeepsDetails w' := by
    cases moved with
    | committed => exact .updateOrder _ _
    | _ => exact .refl w
  cases moved with
  | read found notCancelled notDelivered registered =>
    rw [← World.findOne_orderId found] at found
    exact World.has_of_findOne found
  | @alreadyCancelled orderId reason response =>
    have same := (Prod.mk.inj (Option.some.inj stepped)).2
    cases found : w.findOne orderId with
    | none =>
      rw [found] at same
      cases same
    | some row =>
      rw [found] at same
      have named : (CancelOrder.resolved response).Concerns row.orderId := by
        rw [← same]
        have keyed := World.findOne_orderId found
        subst keyed
        refine CancellationService.afterFetch_concerns ?_
        rintro _ ⟨⟩
        rfl
      change w.Has (some response.orderId)
      have read : response.orderId = row.orderId := named
      rw [read, World.findOne_orderId found]
      exact World.has_of_findOne found
  | agreed =>
    have named : _ = _ := of_decide_eq_true own
    change w.Has (some _)
    rw [named]
    exact h
  | committed => exact kept.has h
  | eventAdded => exact kept.has h
  | _ => exact World.has_none

theorem Task.known?_step {task task' : Task} (h : w.Has task.known?)
    (own : task.repliesOwn a = true) (stepped : task.step env w a = some (w', task')) :
    w'.Has task'.known? := by
  cases task with
  | createOrder call =>
    obtain ⟨⟨w', call'⟩, moved, same⟩ := Option.map_eq_some_iff.mp stepped
    cases same
    exact CreateOrder.known?_step h own moved
  | trackOrder call =>
    obtain ⟨⟨w', call'⟩, moved, same⟩ := Option.map_eq_some_iff.mp stepped
    cases same
    exact TrackOrder.known?_step h own (.of_step moved)
  | cancelOrder call =>
    obtain ⟨⟨w', call'⟩, moved, same⟩ := Option.map_eq_some_iff.mp stepped
    cases same
    exact CancelOrder.known?_step h own moved
  | crashed => contradiction
  | bulkItem bulk index call =>
    obtain ⟨⟨w', call'⟩, moved, same⟩ := Option.map_eq_some_iff.mp stepped
    cases same
    exact World.has_none
  | createBulkOrders call =>
    obtain ⟨⟨w', call'⟩, moved, same⟩ := Option.map_eq_some_iff.mp stepped
    cases same
    exact World.has_none
  | reconcile cycle =>
    obtain ⟨⟨w', cycle'⟩, moved, same⟩ := Option.map_eq_some_iff.mp stepped
    cases same
    exact World.has_none

def State.Knows (s : State) : Prop := ∀ task ∈ s.tasks, s.world.Has task.known?

theorem State.Knows.next {s t : State} {l : Label} (h : s.Knows) (own : s.repliesOwn l = true)
    (moved : (platform env).next s l = some t) : t.Knows := by
  have moves := State.Moves.of_next moved
  have kept := moves.keepsDetails
  intro task mem
  obtain ⟨j, found⟩ := List.getElem?_of_mem mem
  cases moves.came found with
  | kept before still => exact kept.has (h task (List.mem_of_getElem? before))
  | started request label last => cases request <;> exact World.has_none
  | @moved a before task label awaiting step =>
    subst label
    obtain ⟨before', w', task', here, stepped, rfl⟩ := State.next_settle moved
    cases awaiting.symm.trans here
    cases found.symm.trans (getElem?_set_of_some here)
    simp only [State.repliesOwn, here, Option.all_some] at own
    exact Task.known?_step (h before (List.mem_of_getElem? here)) own stepped
  | item awaiting label item last => exact World.has_none
  | wentOn awaiting label item => exact World.has_none
  | collected awaiting => exact World.has_none
  | died before => exact World.has_none

/-! ## Responses -/

structure World.Later (w w' : World) : Prop where
  details : w.KeepsDetails w'
  events : w.events <+: w'.events

theorem World.Shows.mono {data : ResponseData} (h : w.Shows data) (later : w.Later w') :
    w'.Shows data := by
  refine ⟨later.details.has h.row, fun order trackingEvents same => ?_⟩
  obtain ⟨row, stored, details, shown⟩ := h.view order trackingEvents same
  obtain ⟨row', stored', details'⟩ := later.details _ row stored
  obtain ⟨more, rest⟩ := later.events
  refine ⟨row', stored', details'.trans details, shown.trans ?_⟩
  rw [← rest, List.filter_append]
  exact (List.sublist_append_left _ _).subperm

theorem Task.shows_of_outcome? {task : Task} {statusCode : Nat} {data : ResponseData}
    (known : w.Has task.known?) (ended : task.outcome? = some (.ok (statusCode, data))) :
    w.Shows data := by
  cases task with
  | createOrder call => cases call <;> cases ended; exact ⟨known, fun _ _ same => nomatch same⟩
  | createBulkOrders call =>
    cases call <;> cases ended; exact ⟨World.has_none, fun _ _ same => nomatch same⟩
  | trackOrder call => cases call <;> cases ended; exact ⟨known, fun _ _ same => nomatch same⟩
  | cancelOrder call => cases call <;> cases ended; exact ⟨known, fun _ _ same => nomatch same⟩
  | _ => cases ended

variable {config : ServerConfig} {s t : Server} {l : ServerLabel}

namespace Server

theorem findOrder_shows {orderId : String} {trackingEvents : List TrackingEvent} {statusCode : Nat}
    {data : ResponseData} (found : findOrder w orderId trackingEvents = some (.ok (statusCode, data))) :
    w.Shows data := by
  obtain ⟨row, stored, -, rfl, own⟩ := findOrder_ok found
  have named := World.findOne_orderId stored
  subst named
  refine ⟨World.has_of_findOne stored, ?_⟩
  rintro _ _ ⟨⟩
  exact ⟨row, stored, rfl, own.subperm⟩

theorem shows_of_queried {awaited : Awaited} {answer : QueryAnswer} {statusCode : Nat} {data : ResponseData}
    (ended : s.queried config awaited answer = some (.ok (statusCode, data))) :
    s.platform.world.Shows data := by
  cases awaited with
  | findOrder orderId =>
    cases answer with
    | found trackingEvents => exact findOrder_shows ended
    | _ => cases ended
  | authenticate =>
    cases answer <;> cases ended <;> exact ⟨World.has_none, fun _ _ same => nomatch same⟩
  | _ => cases answer <;> cases ended

theorem shows_of_outcome? {awaited : Awaited} {statusCode : Nat} {data : ResponseData}
    (knows : s.platform.Knows) (ended : s.outcome? awaited = some (.ok (statusCode, data))) :
    s.platform.world.Shows data := by
  cases awaited with
  | task i =>
    obtain ⟨task, here, ended⟩ := Option.bind_eq_some_iff.mp ended
    exact Task.shows_of_outcome? (knows task (List.mem_of_getElem? here)) ended
  | registration i =>
    obtain ⟨call, -, ended⟩ := Option.bind_eq_some_iff.mp ended
    cases stage : call.stage <;> rw [stage] at ended <;> cases ended
    exact ⟨World.has_none, fun _ _ same => nomatch same⟩
  | login i =>
    obtain ⟨call, -, ended⟩ := Option.bind_eq_some_iff.mp ended
    cases stage : call.stage <;> rw [stage] at ended <;> cases ended
    exact ⟨World.has_none, fun _ _ same => nomatch same⟩
  | findOrder orderId => contradiction
  | authenticate => contradiction

structure Shown (s : Server) : Prop where
  knows : s.platform.Knows
  shown : ∀ exchange ∈ s.exchanges, ∀ response ∈ exchange.response, ∀ data ∈ response.body.data?,
    s.platform.world.Shows data

theorem Moves.later (moves : Moves config s l t) (own : s.repliesOwn l = true)
    (knows : s.platform.Knows) : s.platform.world.Later t.platform.world ∧ t.platform.Knows := by
  cases moves with
  | @calls request uuid batchId exchange body matched call platform of parsed found asks started =>
    have moved : (CourierPlatform.platform config.env).next s.platform (.start call) = some platform :=
      started
    have moves := State.Moves.of_next moved
    exact ⟨⟨moves.keepsDetails, moves.events⟩, knows.next rfl moved⟩
  | ofPlatform isOwn moved =>
    have moves := State.Moves.of_next moved
    exact ⟨⟨moves.keepsDetails, moves.events⟩, knows.next own moved⟩
  | _ => exact ⟨⟨.refl _, List.prefix_rfl⟩, knows⟩

theorem shows_of_settles {outcome : Except Thrown (Nat × ResponseData)} {requestId : Option String}
    {data : ResponseData} (knows : s.platform.Knows) (settles : Settles config s outcome)
    (success : data ∈ (s.reply config requestId outcome).body.data?) :
    s.platform.world.Shows data := by
  cases outcome with
  | error err => cases success
  | ok sent =>
    obtain ⟨statusCode, sent⟩ := sent
    cases success
    cases settles with
    | profile user => exact ⟨World.has_none, fun _ _ same => nomatch same⟩
    | couriers supportedCouriers => exact ⟨World.has_none, fun _ _ same => nomatch same⟩
    | queried ended => exact shows_of_queried ended
    | ended ended => exact shows_of_outcome? knows ended

theorem Shown.next (h : s.Shown) (own : s.repliesOwn l = true)
    (moved : (server config).next s l = some t) : t.Shown := by
  have moves := Moves.of_next moved
  obtain ⟨later, knows⟩ := moves.later own h.knows
  refine ⟨knows, fun exchange mem response answered data success => ?_⟩
  rcases moves.replied mem answered with ⟨before, earlier, same⟩ | rfl | ⟨outcome, settles, rfl⟩
  · exact (h.shown before earlier response same data success).mono later
  · contradiction
  · exact (shows_of_settles h.knows settles success).mono later

theorem Shown.init (w : World) : (init w).Shown :=
  ⟨fun _ mem => absurd mem List.not_mem_nil, fun _ mem => absurd mem List.not_mem_nil⟩

theorem next_read {k : Nat} {reader : Exchange} {x : String} {row : Order}
    {trackingEvents : List TrackingEvent}
    (here : s.exchanges[k]? = some reader) (reads : reader.awaited = some (.findOrder x))
    (stored : s.platform.world.findOne x = some row)
    (moved : (server config).next s (.query k (.found trackingEvents)) = some t) :
    t.exchanges[k]? = some { reader with
      response := some (.success reader.requestId s.now 200 (.order row trackingEvents)) } ∧
      trackingEvents.Perm (s.platform.world.events.filter fun event => event.orderId = x) := by
  obtain ⟨request, requestId, user, awaited, response⟩ := reader
  cases reads
  change s.send config k (fun awaited => s.queried config awaited (.found trackingEvents)) = some t at moved
  rw [send, here] at moved
  cases response with
  | some response => contradiction
  | none =>
    have named := World.findOne_orderId stored
    subst named
    simp only [queried, findOrder, stored] at moved
    split at moved
    next own =>
      cases Option.some.inj moved
      exact ⟨getElem?_set_of_some here, own⟩
    next => contradiction

end Server

/-- What a client has been told of an order, any later read of it that gets through to the database
confirms: the order is there, its details are those that were shown, and the events that were shown are
among those that the read lists, in whatever order the database brings them. -/
theorem reads_are_monotonic {w : World} {k k' : Nat} {x : String} {exchange reader : Exchange}
    {response : HttpResponse} {data : ResponseData} {trackingEvents : List TrackingEvent} {t' : Server}
    (reach : (server config).Reaches (fun s l => s.repliesOwn l = true) (.init w) s)
    (here : s.exchanges[k]? = some exchange) (answered : exchange.response = some response)
    (told : response.body.data? = some data) (about : data.orderId? = some x)
    (later : (server config).Reaches (fun s l => s.repliesOwn l = true) s t)
    (waits : t.exchanges[k']? = some reader) (reads : reader.awaited = some (.findOrder x))
    (moved : (server config).next t (.query k' (.found trackingEvents)) = some t') :
    ∃ row, t'.exchanges[k']? = some { reader with
        response := some (.success reader.requestId t.now 200 (.order row trackingEvents)) } ∧
      ∀ order shown, data = .order order shown →
        row.details = order.details ∧ shown.Subperm trackingEvents := by
  have before : s.Shown := by
    refine reach.invariant Server.Shown (.init w) ?_
    intro a l b inv own moved
    exact inv.next own moved
  have shown : t.Shown ∧ t.platform.world.Shows data := by
    refine later.invariant (fun t => t.Shown ∧ t.platform.world.Shows data)
      ⟨before, before.shown exchange (List.mem_of_getElem? here) response answered data told⟩ ?_
    intro a l b inv own moved
    have grown := ((Server.Moves.of_next moved).later own inv.1.knows).1
    exact ⟨inv.1.next own moved, inv.2.mono grown⟩
  obtain ⟨row, stored⟩ := shown.2.row x about
  obtain ⟨sent, listed⟩ := Server.next_read waits reads stored moved
  refine ⟨row, sent, ?_⟩
  rintro order earlier rfl
  cases Option.some.inj about
  obtain ⟨row', stored', details, events⟩ := shown.2.view order earlier rfl
  cases stored.symm.trans stored'
  exact ⟨details, events.trans listed.symm.subperm⟩

theorem reads_are_monotonic_booked : ∃ (t : Server) (reader : Exchange) (row : Order)
    (trackingEvents : List TrackingEvent), t.exchanges[1]? = some { reader with
      response := some (.success reader.requestId 0 200 (.order row trackingEvents)) } := by
  obtain ⟨s, reach, first⟩ := Machine.Reaches.of_run_any (server productionServer)
    (fun s l => s.repliesOwn l = true) (.init .empty)
    [.receive bookParcel "U-1" "B-1", .platform (.settle 0 .ok), .platform (.settle 0 .ok),
      .platform (.settle 0 (.booked (bookingReply (parcel "A-1" "mock") "MCK1"))),
      .platform (.settle 0 .ok), .respond 0, .receive (readOrder "A-1") "U-2" "B-2"]
    (fun s => s.now = 0 && (s.exchanges[0]?.any fun exchange => exchange.response.any fun response =>
      response.body.data?.any fun data => data.orderId? = some "A-1") &&
      (s.exchanges[1]?.any fun reader => reader.reads? = some "A-1") &&
      ((server productionServer).next s
        (.query 1 (.found (s.platform.world.eventsOf "A-1")))).isSome) (by decide)
  simp only [Bool.and_eq_true] at first
  obtain ⟨⟨⟨now, told⟩, waits⟩, moves⟩ := first
  obtain ⟨exchange, here, told⟩ := (Option.any_eq_true _ _).mp told
  obtain ⟨response, answered, told⟩ := (Option.any_eq_true _ _).mp told
  obtain ⟨data, told, about⟩ := (Option.any_eq_true _ _).mp told
  obtain ⟨reader, waits, reads⟩ := (Option.any_eq_true _ _).mp waits
  obtain ⟨t', moved⟩ := Option.isSome_iff_exists.mp moves
  have awaits : reader.awaited = some (.findOrder "A-1") := Exchange.eq_of_reads? (of_decide_eq_true reads)
  obtain ⟨row, seen, -⟩ := reads_are_monotonic reach here answered told (of_decide_eq_true about) .refl
    waits awaits moved
  rw [of_decide_eq_true now] at seen
  exact ⟨t', reader, row, _, seen⟩

end CourierPlatform
