import CourierPlatform.Proofs.OwnOrder

/-! What `createOrder` leaves of its order: at every point at which its process may stop, and
once it has settled. -/
namespace CourierPlatform
open Library OrderService

def Label.answers (i : Nat) (answer : Except Thrown NormalizedCreateOrderResponse) : Label → Bool
  | settle j a => j ≠ i || a.booking?.all (· = answer)
  | _ => true

/-- What the tables may hold of the order of a request, given what they held before it. An
`update` leaves a column alone whose value is `undefined`, so a reply without raw response
keeps the older one. -/
inductive Persisted (orderData : NormalizedCreateOrderRequest)
    (answer : Except Thrown NormalizedCreateOrderResponse) (prior : Option Order)
    (events : List TrackingEvent) : Option Order → List TrackingEvent → Prop where
  | unchanged : Persisted orderData answer prior events prior events
  | pending {row} (status : row.status = .pendingDispatch)
      (payload : row.rawRequestPayload = orderData) :
      Persisted orderData answer prior events (some row) events
  | failed {row error} (refused : answer = .error error) (status : row.status = .failed)
      (reason : row.failureReason = some error.message) :
      Persisted orderData answer prior events (some row) events
  | created {row reply event} (booked : answer = .ok reply) (status : row.status = .created)
      (awb : row.awbNumber = some reply.awbNumber)
      (courierOrder : row.courierOrderId = some reply.courierOrderId)
      (response : ∀ raw, reply.rawResponse = some raw → row.rawResponsePayload = jsonColumn raw)
      (older : reply.rawResponse = none →
        row.rawResponsePayload = prior.bind (·.rawResponsePayload))
      (reason : row.failureReason = none) (isCreated : event.status = .created)
      (carries : event.awbNumber = reply.awbNumber) :
      Persisted orderData answer prior events (some row) (events ++ [event])

def CreateOrder.Dispatches (orderData : NormalizedCreateOrderRequest)
    (answer : Except Thrown NormalizedCreateOrderResponse) (persisted : Order) :
    CreateOrder → Prop
  | createShipment request loaded _ => request = orderData ∧ loaded.undated = persisted
  | updateFailed _ loaded error => loaded.undated = persisted ∧ answer = .error error
  | saveUpdate request reply loaded =>
    request = orderData ∧ loaded.undated = persisted ∧ answer = .ok reply
  | call => call.settled = true

namespace SingleOrder

/-- The points at which the process may stop, each with what the tables hold there. -/
inductive CrashPoint (env : Env) (orderData : NormalizedCreateOrderRequest)
    (answer : Except Thrown NormalizedCreateOrderResponse) (prior : Option Order)
    (events : List TrackingEvent) (persisted : Order) : SingleOrder → Prop where
  | reading : CrashPoint env orderData answer prior events persisted
      ⟨.findOne orderData, prior, events⟩
  | updating {existing} (found : prior = some existing) :
      CrashPoint env orderData answer prior events persisted
        ⟨.updateExisting orderData existing, prior, events⟩
  | creating (absent : prior = none) :
      CrashPoint env orderData answer prior events persisted
        ⟨.createRow orderData, prior, events⟩
  | left {call} (settled : call.settled = true) :
      CrashPoint env orderData answer prior events persisted ⟨call, prior, events⟩
  | pending {call row} (own : row.undated = persisted)
      (dispatches : call.Dispatches orderData answer persisted) :
      CrashPoint env orderData answer prior events persisted ⟨call, some row, events⟩
  | failed {call row error} (refused : answer = .error error) (settled : call.settled = true)
      (own : row.undated = persisted.assign 0 (failedPatch error)) :
      CrashPoint env orderData answer prior events persisted ⟨call, some row, events⟩
  /-- Only SQLite has a point between the two writes. -/
  | between {call row reply} (sqlite : env.dialect = .sqlite) (booked : answer = .ok reply)
      (own : row.undated = persisted.assign 0 (createdPatch reply))
      (ahead : call.settled = true ∨ ∃ loaded, loaded.undated = persisted ∧
        call = .saveEvent orderData reply loaded) :
      CrashPoint env orderData answer prior events persisted ⟨call, some row, events⟩
  | booked {call row reply event} (booked : answer = .ok reply) (settled : call.settled = true)
      (own : row.undated = persisted.assign 0 (createdPatch reply))
      (tracked : event.undated = initialTracking env orderData reply persisted 0) :
      CrashPoint env orderData answer prior events persisted
        ⟨call, some row, events ++ [event]⟩

section
variable {env : Env} {orderData : NormalizedCreateOrderRequest}
  {answer : Except Thrown NormalizedCreateOrderResponse} {prior : Option Order}
  {events : List TrackingEvent} {persisted : Order} {o after : SingleOrder} {now : Int} {a : Answer}

theorem step_of_settled (settled : o.call.settled = true) : o.step env now a = none := by
  obtain ⟨call, row, events⟩ := o
  cases call <;> first | contradiction | (cases a <;> rfl)

theorem undated_write {row loaded : Order} {patch : OrderPatch} (own : row.undated = persisted)
    (same : loaded.undated = persisted) :
    (row.write env.updateMode now loaded patch).undated = persisted.assign 0 patch := by
  rw [Order.write_undated, own, same]
  apply Order.write_own
  rw [← own]
  rfl

theorem undated_initialTracking {loaded : Order} {reply : NormalizedCreateOrderResponse}
    (same : loaded.undated = persisted) :
    (initialTracking env orderData reply loaded now).undated =
      initialTracking env orderData reply persisted 0 := by
  rw [← same]
  rfl

theorem CrashPoint.dispatch {row loaded : Order} (own : row.undated = persisted)
    (same : loaded.undated = persisted) :
    CrashPoint env orderData answer prior events persisted
      ⟨dispatchWithFailureAudit env orderData loaded, some row, events⟩ := by
  apply CrashPoint.pending own
  unfold dispatchWithFailureAudit
  split
  · rfl
  · exact ⟨rfl, same⟩

/-- From one point the call gets to the next, whatever its await settles to. -/
theorem CrashPoint.step (here : CrashPoint env orderData answer prior events
      (prePersisted orderData (prior.map Order.undated)) o)
    (good : ∀ booking, a.booking? = some booking → booking = answer)
    (h : o.step env now a = some after) :
    CrashPoint env orderData answer prior events
      (prePersisted orderData (prior.map Order.undated)) after := by
  cases here with
  | reading =>
    cases a with
    | ok =>
      cases h
      change CrashPoint _ _ _ _ _ _ ⟨afterFindOne orderData prior, prior, events⟩
      unfold afterFindOne
      split
      · exact .left rfl
      · cases prior with
        | none => exact .creating rfl
        | some existing => exact .updating rfl
    | dbError error => cases h; exact .left rfl
    | _ => cases h
  | @updating existing found =>
    subst found
    cases a with
    | ok =>
      cases h
      exact .dispatch (undated_write rfl rfl) (Order.assign_undated)
    | dbError error => cases h; exact .left rfl
    | _ => cases h
  | creating absent =>
    subst absent
    cases a with
    | ok => cases h; exact .dispatch rfl rfl
    | dbError error => cases h; exact .left rfl
    | _ => cases h
  | left settled =>
    rw [step_of_settled settled] at h
    contradiction
  | @pending call row own dispatches =>
    cases call with
    | createShipment request loaded adapter =>
      obtain ⟨rfl, same⟩ := dispatches
      cases a with
      | booked reply => cases h; exact .pending own ⟨rfl, same, (good _ rfl).symm⟩
      | refused error => cases h; exact .pending own ⟨same, (good _ rfl).symm⟩
      | _ => cases h
    | updateFailed request loaded error =>
      obtain ⟨same, refused⟩ := dispatches
      cases a with
      | ok => cases h; exact .failed refused rfl (undated_write own same)
      | dbError lost => cases h; exact .pending own rfl
      | _ => cases h
    | saveUpdate request reply loaded =>
      obtain ⟨rfl, same, answered⟩ := dispatches
      cases a with
      | ok =>
        cases h
        unfold saved
        cases dialect : env.dialect with
        | sqlite =>
          exact .between dialect answered (undated_write own same) (.inr ⟨loaded, same, rfl⟩)
        | postgres =>
          exact .booked answered rfl (undated_write own same) (undated_initialTracking same)
      | dbError lost => cases h; exact .pending own rfl
      | _ => cases h
    | saveEvent request reply loaded => contradiction
    | findOne request => contradiction
    | updateExisting request existing => contradiction
    | createRow request => contradiction
    | _ => rw [step_of_settled rfl] at h; contradiction
  | failed refused settled own =>
    rw [step_of_settled settled] at h
    contradiction
  | between sqlite answered own ahead =>
    rcases ahead with settled | ⟨loaded, same, rfl⟩
    · rw [step_of_settled settled] at h
      contradiction
    · cases a with
      | ok => cases h; exact .booked answered rfl own (undated_initialTracking same)
      | dbError lost => cases h; exact .between sqlite answered own (.inl rfl)
      | _ => cases h
  | booked answered settled own tracked =>
    rw [step_of_settled settled] at h
    contradiction

theorem prePersisted_status : (prePersisted orderData prior).status = .pendingDispatch := by
  cases prior with
  | none => rfl
  | some row => simp [prePersisted, Order.assign, Order.write, pendingPatch]

theorem prePersisted_response :
    (prePersisted orderData prior).rawResponsePayload = prior.bind (·.rawResponsePayload) := by
  cases prior with
  | none => rfl
  | some row => simp [prePersisted, Order.assign, Order.write, pendingPatch]

theorem prePersisted_payload : (prePersisted orderData prior).rawRequestPayload = orderData := by
  cases prior with
  | none => rfl
  | some row => simp [prePersisted, Order.assign, Order.write, pendingPatch]

theorem CrashPoint.persists (here : CrashPoint env orderData answer prior events
      (prePersisted orderData (prior.map Order.undated)) o)
    (postgres : env.dialect = .postgres)
    (created : ∀ reply, answer = .ok reply → reply.status = .created) :
    Persisted orderData answer prior events o.row o.events := by
  have column {row : Order} {order : Order} {α : Type} (own : row.undated = order)
      (field : Order → α) (stable : ∀ order : Order, field order.undated = field order) :
      field row = field order := by
    rw [← own, stable]
  cases here with
  | reading => exact .unchanged
  | updating found => exact .unchanged
  | creating absent => exact .unchanged
  | left settled => exact .unchanged
  | pending own dispatches =>
    apply Persisted.pending
    · rw [column own Order.status fun _ => rfl, prePersisted_status]
    · rw [column own Order.rawRequestPayload fun _ => rfl, prePersisted_payload]
  | failed refused settled own =>
    apply Persisted.failed refused
    · simp [column own Order.status fun _ => rfl, Order.assign, Order.write, failedPatch]
    · simp [column own Order.failureReason fun _ => rfl, Order.assign, Order.write, failedPatch]
  | between sqlite => exact absurd (sqlite.symm.trans postgres) (by decide)
  | @booked call row reply event answered settled own tracked =>
    apply Persisted.created answered
    · simp [column own Order.status fun _ => rfl, Order.assign, Order.write, createdPatch,
        created reply answered]
    · simp [column own Order.awbNumber fun _ => rfl, Order.assign, Order.write, createdPatch]
    · simp [column own Order.courierOrderId fun _ => rfl, Order.assign, Order.write, createdPatch]
    · intro raw given
      simp [column own Order.rawResponsePayload fun _ => rfl, Order.assign, Order.write,
        createdPatch, given]
    · intro missing
      have kept : (prior.map Order.undated).bind (·.rawResponsePayload) =
          prior.bind (·.rawResponsePayload) := by
        cases prior <;> rfl
      simp [column own Order.rawResponsePayload fun _ => rfl, Order.assign, Order.write,
        createdPatch, missing, prePersisted_response, kept]
    · simp [column own Order.failureReason fun _ => rfl, Order.assign, Order.write, createdPatch]
    · exact congrArg TrackingEvent.status tracked
    · exact congrArg TrackingEvent.awbNumber tracked

end
end SingleOrder

section
variable {env : Env} {s s₀ t : State} {orderData : NormalizedCreateOrderRequest}
  {answer : Except Thrown NormalizedCreateOrderResponse}

theorem Label.answers_booking {i : Nat} {a : Answer} (h : (settle i a).answers i answer = true)
    (booking : Except Thrown NormalizedCreateOrderResponse) (answered : a.booking? = some booking) :
    booking = answer := by
  simpa [Label.answers, answered] using h

theorem State.Alone.of_started (untouched : s.Untouched orderData.orderId)
    (started : (platform env).next s (.start (.createOrder orderData)) = some s₀) :
    s₀.Alone orderData.orderId s.tasks.length (createOrder orderData) ∧ s₀.world = s.world := by
  cases Option.some.inj started
  refine ⟨⟨⟨_, List.getElem?_concat_length, .single⟩, ⟨fun _ mem => ?_, fun _ mem => ?_⟩, ?_⟩, rfl⟩
  · cases mem
    rfl
  · cases mem
  · intro j task found other
    rcases getElem?_concat_cases found with before | ⟨same, -⟩
    · exact untouched task (List.mem_of_getElem? before)
    · exact absurd same other

/-- Whatever writes fail and wherever the process stops, a request leaves its order unchanged,
or pending with the payload of the request, or failed with the courier's error, or created
with the courier's reply and one event. -/
theorem createOrder_crash_safe (postgres : env.dialect = .postgres)
    (created : ∀ reply, answer = .ok reply → reply.status = .created)
    (untouched : s.Untouched orderData.orderId)
    (started : (platform env).next s (.start (.createOrder orderData)) = some s₀)
    (reach : (platform env).Reaches (fun _ l => l.spares orderData.orderId = true ∧
      l.answers s.tasks.length answer = true) s₀ t) :
    Persisted orderData answer (s.world.findOne orderData.orderId)
      (s.world.eventsOf orderData.orderId) (t.world.findOne orderData.orderId)
      (t.world.eventsOf orderData.orderId) := by
  obtain ⟨alone, same⟩ := State.Alone.of_started untouched started
  obtain ⟨call, here, -⟩ := alone.invariant
    (fun a => ∀ booking, a.booking? = some booking → booking = answer)
    (SingleOrder.CrashPoint env orderData answer (s.world.findOne orderData.orderId)
      (s.world.eventsOf orderData.orderId)
      (prePersisted orderData ((s.world.findOne orderData.orderId).map Order.undated)))
    (by rw [World.single, same]; exact .reading)
    (fun now a o after here good stepped => here.step good stepped)
    (fun _ _ allowed => allowed.1)
    (fun _ _ allowed => Label.answers_booking allowed.2) reach
  exact here.persists postgres created

end

theorem createOrder_crash_safe_unrecorded :
    ∃ t : State, (t.world.findOne "A-1").any (·.status = .pendingDispatch) = true ∧
      Persisted (parcel "A-1" "mock") (.ok (bookingReply (parcel "A-1" "mock") "MCK1")) none []
        (t.world.findOne "A-1") (t.world.eventsOf "A-1") := by
  let orderData := parcel "A-1" "mock"
  let reply := bookingReply orderData "MCK1"
  obtain ⟨s₀, started⟩ : ∃ s₀, production.next (State.init .empty)
      (.start (.createOrder orderData)) = some s₀ := ⟨_, rfl⟩
  have continues : (production.run (fun _ l => l.spares "A-1" = true ∧
      l.answers 0 (.ok reply) = true) s₀
      [.settle 0 .ok, .settle 0 .ok, .settle 0 (.booked reply), .crash [0]]).any
      (fun t => (t.world.findOne "A-1").any (·.status = .pendingDispatch)) = true := by
    cases Option.some.inj started
    decide
  obtain ⟨t, reach, pending⟩ := Machine.Reaches.of_run_any production _ s₀ _ _ continues
  refine ⟨t, pending, createOrder_crash_safe rfl (fun _ same => ?_)
    (fun _ mem => absurd mem List.not_mem_nil) started reach⟩
  cases same
  rfl

/-! ## Once the call has settled -/

def State.hasReturned (s : State) (i : Nat) : Bool :=
  s.tasks[i]?.any fun
    | .createOrder call => call.settled
    | _ => false

theorem State.hasReturned_iff {s : State} {i : Nat} : s.hasReturned i = true ↔
    ∃ call, s.tasks[i]? = some (.createOrder call) ∧ call.settled = true := by
  unfold hasReturned
  cases s.tasks[i]? with
  | none => simp
  | some task => cases task <;> simp

/-- The cases in which a request leaves no pending row: a closed row answers it, or its partner
is registered and no booking is answered as pending. -/
def Env.settlesRow (env : Env) (orderData : NormalizedCreateOrderRequest)
    (answer : Except Thrown NormalizedCreateOrderResponse) (prior : Option Order) : Prop :=
  (∃ row, prior = some row ∧ row.status.isOpen = false) ∨
    env.registry.has env.js orderData.courierPartner = true ∧
      ∀ reply, answer = .ok reply → reply.status ≠ .pendingDispatch

section
variable {env : Env} {s s₀ t : State} {orderData : NormalizedCreateOrderRequest}
  {answer : Except Thrown NormalizedCreateOrderResponse}

theorem SingleOrder.dispatched_settles {persisted : Order} {events : List TrackingEvent}
    (pending : persisted.status = .pendingDispatch) :
    (∀ row, (dispatched env (fun _ => answer) orderData persisted events).row = some row →
      row.status ≠ .pendingDispatch) ↔
    env.registry.has env.js orderData.courierPartner = true ∧
      ∀ reply, answer = .ok reply → reply.status ≠ .pendingDispatch := by
  rw [CourierRegistry.has_eq_isOk]
  unfold dispatched
  cases env.registry.get env.js orderData.courierPartner with
  | error unknown =>
    constructor
    · intro settles
      exact absurd pending (settles persisted rfl)
    · rintro ⟨registered, -⟩
      contradiction
  | ok adapter =>
    cases answer with
    | error error =>
      refine ⟨fun _ => ⟨rfl, fun reply same => by contradiction⟩, fun _ row same => ?_⟩
      cases same
      simp [Order.assign, Order.write, failedPatch]
    | ok reply =>
      constructor
      · intro settles
        refine ⟨rfl, fun other same => ?_⟩
        cases same
        have status := settles _ rfl
        simpa [Order.assign, Order.write, createdPatch] using status
      · rintro ⟨-, notPending⟩ row same
        cases same
        simpa [Order.assign, Order.write, createdPatch] using notPending reply rfl

theorem SingleOrder.outcome_settles {prior : Option Order} {events : List TrackingEvent} :
    (∀ row, (outcome env (fun _ => answer) orderData prior events).row = some row →
      row.status ≠ .pendingDispatch) ↔ env.settlesRow orderData answer prior := by
  unfold outcome Env.settlesRow
  cases prior with
  | none =>
    refine (dispatched_settles prePersisted_status).trans (Iff.symm (or_iff_right ?_))
    rintro ⟨row, absent, -⟩
    contradiction
  | some row =>
    have answers : (checkIdempotentResponse (some row)).isSome = !row.status.isOpen :=
      checkIdempotentResponse_some
    cases closed : row.status.isOpen with
    | true =>
      have unanswered : checkIdempotentResponse (some row) = none := by
        simpa [closed] using answers
      rw [unanswered]
      refine (dispatched_settles prePersisted_status).trans (Iff.symm (or_iff_right ?_))
      rintro ⟨_, same, shut⟩
      cases same
      exact absurd (closed.symm.trans shut) (by decide)
    | false =>
      rw [closed] at answers
      obtain ⟨response, answered⟩ := Option.isSome_iff_exists.mp answers
      rw [answered]
      refine ⟨fun _ => .inl ⟨row, rfl, closed⟩, fun _ other same pending => ?_⟩
      cases same
      rw [pending] at closed
      contradiction

theorem createOrder_comes_to (untouched : s.Untouched orderData.orderId)
    (started : (platform env).next s (.start (.createOrder orderData)) = some s₀)
    (reach : (platform env).Reaches (fun _ l => l.spares orderData.orderId = true ∧
      l.answers s.tasks.length answer = true ∧ l.faultless = true) s₀ t)
    (returned : t.hasReturned s.tasks.length = true) :
    ∃ call, (t.world.single orderData.orderId call).undated =
      SingleOrder.outcome env (fun _ => answer) orderData
        ((s.world.findOne orderData.orderId).map Order.undated)
        ((s.world.eventsOf orderData.orderId).map TrackingEvent.undated) := by
  obtain ⟨alone, same⟩ := State.Alone.of_started untouched started
  obtain ⟨call, finished, settled⟩ := State.hasReturned_iff.mp returned
  obtain ⟨call', comesTo, here | ⟨⟨_, dead, allowed⟩, -⟩⟩ := alone.invariant
    (fun a => (∀ booking, a.booking? = some booking → booking = answer) ∧
      ∀ error, a ≠ .dbError error)
    (fun o => o.complete env (fun _ => answer) = SingleOrder.outcome env (fun _ => answer) orderData
      ((s.world.findOne orderData.orderId).map Order.undated)
      ((s.world.eventsOf orderData.orderId).map TrackingEvent.undated))
    (by rw [World.single, same]; exact SingleOrder.complete_findOne)
    (fun now a o after comesTo good stepped => by
      rw [SingleOrder.settles_of_step stepped good.2 fun _ _ _ _ => good.1] at stepped
      rw [SingleOrder.complete_step stepped, comesTo])
    (fun _ _ allowed => allowed.1)
    (fun _ a allowed => ⟨Label.answers_booking allowed.2.1, by
      rintro error rfl
      exact Bool.noConfusion allowed.2.2⟩) reach
  · obtain ⟨task, found, runs⟩ := here.here
    cases finished.symm.trans found
    cases runs
    refine ⟨call, ?_⟩
    rw [← comesTo, SingleOrder.complete_of_settled settled]
  · exact Bool.noConfusion allowed.2.2

/-- A request that has returned or thrown, with every database operation succeeding, leaves no
pending row exactly if a closed row answered it or its partner is registered and did not
answer a booking as pending. -/
theorem createOrder_settles_iff (untouched : s.Untouched orderData.orderId)
    (started : (platform env).next s (.start (.createOrder orderData)) = some s₀)
    (reach : (platform env).Reaches (fun _ l => l.spares orderData.orderId = true ∧
      l.answers s.tasks.length answer = true ∧ l.faultless = true) s₀ t)
    (returned : t.hasReturned s.tasks.length = true) :
    (∀ row, t.world.findOne orderData.orderId = some row → row.status ≠ .pendingDispatch) ↔
      env.settlesRow orderData answer (s.world.findOne orderData.orderId) := by
  obtain ⟨call, comesTo⟩ := createOrder_comes_to untouched started reach returned
  have rows := congrArg SingleOrder.row comesTo
  have undated : env.settlesRow orderData answer (s.world.findOne orderData.orderId) ↔
      env.settlesRow orderData answer ((s.world.findOne orderData.orderId).map Order.undated) := by
    unfold Env.settlesRow
    cases s.world.findOne orderData.orderId <;> simp
  rw [undated, ← SingleOrder.outcome_settles, ← rows]
  constructor
  · intro settles row stored
    obtain ⟨own, here, rfl⟩ := Option.map_eq_some_iff.mp stored
    exact settles own here
  · intro settles row stored
    exact settles row.undated (congrArg (Option.map Order.undated) stored)

end

theorem createOrder_settles_iff_refused :
    ∃ t : State, (t.world.findOne "A-1").isSome = true ∧
      ∀ row, t.world.findOne "A-1" = some row → row.status ≠ .pendingDispatch := by
  let orderData := parcel "A-1" "mock"
  let error := Thrown.error "timeout"
  obtain ⟨s₀, started⟩ : ∃ s₀, production.next (State.init .empty)
      (.start (.createOrder orderData)) = some s₀ := ⟨_, rfl⟩
  have continues : (production.run (fun _ l => l.spares "A-1" = true ∧
      l.answers 0 (.error error) = true ∧ l.faultless = true) s₀
      [.settle 0 .ok, .settle 0 .ok, .settle 0 (.refused error), .settle 0 .ok]).any
      (fun t => (t.world.findOne "A-1").isSome && t.hasReturned 0) = true := by
    cases Option.some.inj started
    decide
  obtain ⟨t, reach, test⟩ := Machine.Reaches.of_run_any production _ s₀ _ _ continues
  obtain ⟨stored, returned⟩ := Bool.and_eq_true_iff.mp test
  have settles := createOrder_settles_iff (fun _ mem => absurd mem List.not_mem_nil) started reach
    returned
  exact ⟨t, stored, settles.mpr (.inr ⟨by decide, fun _ same => by contradiction⟩)⟩

/-- The partner is looked up after the row was written, outside the `try`. -/
theorem createOrder_leaves_pending :
    ¬ ∀ env (s s₀ t : State) orderData answer, s.Untouched orderData.orderId →
      (platform env).next s (.start (.createOrder orderData)) = some s₀ →
      (platform env).Reaches (fun _ l => l.spares orderData.orderId = true ∧
        l.answers s.tasks.length answer = true ∧ l.faultless = true) s₀ t →
      t.hasReturned s.tasks.length = true →
      ∀ row, t.world.findOne orderData.orderId = some row → row.status ≠ .pendingDispatch := by
  intro claim
  let orderData := parcel "A-1" "fedex"
  obtain ⟨s₀, started⟩ : ∃ s₀, production.next (State.init .empty)
      (.start (.createOrder orderData)) = some s₀ := ⟨_, rfl⟩
  have continues : (production.run (fun _ l => l.spares "A-1" = true ∧
      l.answers 0 (.error (.error "")) = true ∧ l.faultless = true) s₀
      [.settle 0 .ok, .settle 0 .ok]).any
      (fun t => (t.world.findOne "A-1").any (·.status = .pendingDispatch) && t.hasReturned 0) =
        true := by
    cases Option.some.inj started
    decide
  obtain ⟨t, reach, test⟩ := Machine.Reaches.of_run_any production _ s₀ _ _ continues
  obtain ⟨pending, returned⟩ := Bool.and_eq_true_iff.mp test
  obtain ⟨row, stored, status⟩ := (Option.any_eq_true _ _).mp pending
  exact claim _ _ s₀ t orderData _ (fun _ mem => absurd mem List.not_mem_nil) started reach
    returned row stored (of_decide_eq_true status)

end CourierPlatform
