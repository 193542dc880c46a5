import CourierPlatform.Model.OrderSchema
import CourierPlatform.Proofs.CrashSafety
import CourierPlatform.Spec.Resubmission

/-! The answer to a repeated `createOrder` request comes from the row. What the row holds after a
booking is followed through the first call; the second one only reads it. -/
namespace CourierPlatform
open Library OrderService

structure Order.Records (row : Order) (partner : String) (reply : NormalizedCreateOrderResponse) :
    Prop where
  courierPartner : row.courierPartner = partner
  courierOrderId : row.courierOrderId = some reply.courierOrderId
  awbNumber : row.awbNumber = some reply.awbNumber
  status : row.status = reply.status

/-- How far a call has come that began with the row `prior` and the courier calls `before`: the
row and the courier calls now, and the call. -/
inductive CreateOrder.Toward (env : Env) (orderData : NormalizedCreateOrderRequest)
    (prior : Option Order) (before : List CourierCall) :
    Option Order → List CourierCall → CreateOrder → Prop where
  | reading : Toward env orderData prior before prior before (.findOne orderData)
  | updating {existing} (found : prior = some existing) :
      Toward env orderData prior before prior before (.updateExisting orderData existing)
  | creating (absent : prior = none) :
      Toward env orderData prior before prior before (.createRow orderData)
  | dispatching {row persisted adapter} (own : row.undated = persisted.undated)
      (partner : row.courierPartner = orderData.storedPartner prior)
      (registered : env.registry.get env.js orderData.courierPartner = .ok adapter) :
      Toward env orderData prior before (some row) before
        (.createShipment orderData persisted adapter)
  | saving {row persisted adapter reply} (own : row.undated = persisted.undated)
      (partner : row.courierPartner = orderData.storedPartner prior)
      (registered : env.registry.get env.js orderData.courierPartner = .ok adapter) :
      Toward env orderData prior before (some row)
        (before ++ [.createShipment adapter orderData (.ok reply)])
        (.saveUpdate orderData reply persisted)
  | tracking {row persisted adapter reply}
      (records : row.Records (orderData.storedPartner prior) reply)
      (registered : env.registry.get env.js orderData.courierPartner = .ok adapter) :
      Toward env orderData prior before (some row)
        (before ++ [.createShipment adapter orderData (.ok reply)])
        (.saveEvent orderData reply persisted)
  | booked {row adapter reply} (records : row.Records (orderData.storedPartner prior) reply)
      (registered : env.registry.get env.js orderData.courierPartner = .ok adapter) :
      Toward env orderData prior before (some row)
        (before ++ [.createShipment adapter orderData (.ok reply)]) (.resolved reply)
  | answered {response} : Toward env orderData prior before prior before (.resolved response)
  | failing {row calls persisted error} :
      Toward env orderData prior before row calls (.updateFailed orderData persisted error)
  | failed {row calls error} : Toward env orderData prior before row calls (.rejected error)

section
variable {env : Env} {orderData : NormalizedCreateOrderRequest} {prior : Option Order}
  {before : List CourierCall} {row loaded persisted : Order} {w w' : World}
  {call call' : CreateOrder} {a : Answer} {reply : NormalizedCreateOrderResponse} {mode : UpdateMode}
  {now : Int}

theorem Order.write_own_undated {patch : OrderPatch} (own : row.undated = loaded.undated) :
    (row.write mode now loaded patch).undated = (loaded.assign now patch).undated := by
  rw [write_undated, own, assign_undated]
  exact write_own rfl

theorem Order.Records.of_write (own : row.undated = persisted.undated)
    (partner : row.courierPartner = orderData.storedPartner prior) :
    (row.write mode now persisted (createdPatch reply)).Records (orderData.storedPartner prior)
      reply := by
  have same : (row.write mode now persisted (createdPatch reply)).undated =
      (persisted.assign now (createdPatch reply)).undated := Order.write_own_undated own
  constructor
  · exact partner
  · exact (congrArg Order.courierOrderId same).trans (by simp [assign, write, createdPatch, undated])
  · exact (congrArg Order.awbNumber same).trans (by simp [assign, write, createdPatch, undated])
  · exact (congrArg Order.status same).trans (by simp [assign, write, createdPatch, undated])

theorem CreateOrder.Toward.dispatch (own : row.undated = persisted.undated)
    (partner : row.courierPartner = orderData.storedPartner prior) :
    Toward env orderData prior before (some row) before
      (dispatchWithFailureAudit env orderData persisted) := by
  rcases dispatch_cases env orderData persisted with
    ⟨unknown, rejected⟩ | ⟨adapter, registered, dispatched⟩
  · rw [rejected]
    exact .failed
  · rw [dispatched]
    exact .dispatching own partner registered

theorem World.findOne_updateOrder_at {patch : OrderPatch} {x : String} (own : loaded.orderId = x)
    (stored : w.findOne x = some row) :
    (w.updateOrder env loaded patch).findOne x = some (row.write env.updateMode w.now loaded patch) := by
  rw [w.findOne_updateOrder env, if_pos own.symm, stored, Option.map_some]

theorem CreateOrder.Toward.step
    (toward : Toward env orderData prior before (w.findOne orderData.orderId) w.courierCalls call)
    (moves : Moves env w call a w' call') :
    Toward env orderData prior before (w'.findOne orderData.orderId) w'.courierCalls call' := by
  have keyed {row loaded : Order} (stored : some row = w.findOne orderData.orderId)
      (own : row.undated = loaded.undated) : loaded.orderId = orderData.orderId := by
    have same : loaded.orderId = row.orderId := by
      simpa using congrArg Order.orderId own.symm
    exact same.trans (w.orderId_of_findOne stored.symm)
  generalize current : w.findOne orderData.orderId = row at toward
  generalize called : w.courierCalls = calls at toward
  cases moves with
  | answeredFromRow found closed response =>
    cases toward
    rw [current, called]
    exact .answered
  | readOpen found isOpen =>
    cases toward
    rw [current, called]
    exact .updating (current.symm.trans found)
  | readNone absent =>
    cases toward
    rw [current, called]
    exact .creating (current.symm.trans absent)
  | @prePersisted _ existing =>
    cases toward with
    | updating found =>
      have stored := current.trans found
      rw [World.findOne_updateOrder_at (w.orderId_of_findOne stored) stored,
        World.updateOrder_courierCalls, called]
      exact .dispatch (Order.write_own_undated rfl) (found ▸ rfl)
  | inserted created =>
    cases toward with
    | creating absent =>
      rw [w.findOne_createOrder? created, w.createOrder?_courierCalls created, called]
      rw [show (pendingOrder orderData w.now).orderId = orderData.orderId from rfl, if_pos rfl]
      exact .dispatch rfl (absent ▸ rfl)
  | duplicate => cases toward; exact .failed
  | booked =>
    cases toward with
    | dispatching own partner registered =>
      rw [World.record_findOne, World.record_courierCalls, current, called]
      exact .saving own partner registered
  | refused => cases toward; exact .failing
  | audited => exact .failed
  | savedSqlite dialect =>
    cases toward with
    | saving own partner registered =>
      rw [World.findOne_updateOrder_at (keyed current.symm own) current,
        World.updateOrder_courierCalls, called]
      exact .tracking (.of_write own partner) registered
  | savedPostgres dialect =>
    cases toward with
    | saving own partner registered =>
      rw [World.createEvent_findOne, World.findOne_updateOrder_at (keyed current.symm own) current,
        World.createEvent_courierCalls, World.updateOrder_courierCalls, called]
      exact .booked (.of_write own partner) registered
  | eventSaved =>
    cases toward with
    | tracking records registered =>
      rw [World.createEvent_findOne, World.createEvent_courierCalls, current, called]
      exact .booked records registered
  | failed awaits error => exact .failed

end

/-! ## The call that came last -/

section
variable {env : Env} {s t : State} {w w' : World} {tasks : List Task} {l : Label}
  {call call' : CreateOrder} {a : Answer}

theorem State.next_settle_last (stepped : step env w call a = some (w', call')) :
    (platform env).next ⟨w, tasks ++ [.createOrder call]⟩ (.settle tasks.length a) =
      some ⟨w', tasks ++ [.createOrder call']⟩ := by
  simp [platform, State.next, Task.step, stepped]

theorem State.serves_last (permitted : servesOnly tasks.length l = true)
    (moved : (platform env).next ⟨w, tasks ++ [.createOrder call]⟩ l = some t) :
    (∃ a w' call', l = .settle tasks.length a ∧ step env w call a = some (w', call') ∧
      t = ⟨w', tasks ++ [.createOrder call']⟩) ∨
    ∃ ms : Nat, t = ⟨{ w with now := w.now + ms }, tasks ++ [.createOrder call]⟩ := by
  cases l with
  | settle j a =>
    cases of_decide_eq_true permitted
    obtain ⟨task, w', task', found, stepped, rfl⟩ := State.next_settle moved
    rw [List.getElem?_concat_length] at found
    cases found
    obtain ⟨⟨after, call'⟩, served, same⟩ := Option.map_eq_some_iff.mp stepped
    cases same
    exact .inl ⟨a, after, call', rfl, served, by simp⟩
  | tick ms =>
    cases Option.some.inj moved
    exact .inr ⟨ms, rfl⟩
  | _ => contradiction

theorem State.last_invariant {allowed : Label → Prop} (J : World → CreateOrder → Prop)
    (start : J w call) (only : ∀ l, allowed l → servesOnly tasks.length l = true)
    (kept : ∀ w call a w' call', J w call → allowed (.settle tasks.length a) →
      step env w call a = some (w', call') → J w' call')
    (ticked : ∀ (w : World) call (ms : Nat), J w call → J { w with now := w.now + ms } call)
    (reach : (platform env).Reaches (fun _ l => allowed l) ⟨w, tasks ++ [.createOrder call]⟩ t) :
    ∃ call', t.tasks = tasks ++ [.createOrder call'] ∧ J t.world call' := by
  refine reach.invariant (fun t => ∃ call', t.tasks = tasks ++ [.createOrder call'] ∧ J t.world call')
    ⟨call, rfl, start⟩ ?_
  rintro ⟨w, _⟩ l b ⟨call, rfl, holds⟩ permitted moved
  rcases State.serves_last (only l permitted) moved with
    ⟨a, w', call', rfl, stepped, rfl⟩ | ⟨ms, rfl⟩
  · exact ⟨call', rfl, kept _ _ a _ _ holds permitted stepped⟩
  · exact ⟨call, rfl, ticked _ _ ms holds⟩

end

/-! ## The second call -/

section
variable {env : Env} {s t : State} {orderData : NormalizedCreateOrderRequest}
  {first reply again : NormalizedCreateOrderResponse} {row : Order} {prior : Option Order}
  {partner : String} {adapter : Adapter}

def Order.answer (row : Order) : NormalizedCreateOrderResponse where
  orderId := row.orderId
  courierPartner := row.courierPartner
  courierOrderId := orDefault row.courierOrderId row.orderId
  awbNumber := orDefault row.awbNumber ""
  status := row.status
  rawResponse := row.rawResponsePayload
  rawRequest := row.rawRequestPayload

theorem checkIdempotentResponse_eq : checkIdempotentResponse (some row) =
    if row.status.isOpen then none else some row.answer := by
  unfold checkIdempotentResponse ShipmentStatus.isOpen
  cases h : row.status <;> simp [h, Order.answer]

theorem afterFindOne_closed (closed : row.status.isOpen = false) :
    afterFindOne orderData (some row) = .resolved row.answer := by
  rw [afterFindOne, checkIdempotentResponse_eq, closed]
  rfl

theorem afterFindOne_open (isOpen : row.status.isOpen = true) :
    afterFindOne orderData (some row) = .updateExisting orderData row := by
  rw [afterFindOne, checkIdempotentResponse_eq, isOpen]
  rfl

theorem orDefault_eq_iff {text fallback : String} :
    orDefault (some text) fallback = text ↔ (text = "" → fallback = "") := by
  rw [orDefault]
  split
  next empty => rw [empty]; exact ⟨fun same _ => same, fun same => same rfl⟩
  next filled => exact ⟨fun _ empty => absurd empty filled, fun _ => rfl⟩

theorem Order.Records.answers_iff (records : row.Records (orderData.storedPartner prior) reply)
    (keyed : row.orderId = orderData.orderId) (closed : row.status.isOpen = false) :
    reply.Agrees row.answer ↔ reply.Repeatable orderData prior := by
  have number : row.answer.courierOrderId = reply.courierOrderId ↔
      (reply.courierOrderId = "" → orderData.orderId = "") := by
    rw [Order.answer, records.courierOrderId, keyed]
    exact orDefault_eq_iff
  constructor
  · intro agrees
    exact {
      closed := records.status ▸ closed
      order := agrees.orderId.symm.trans keyed
      partner := agrees.courierPartner.symm.trans records.courierPartner
      numbered := number.mp agrees.courierOrderId }
  · intro repeatable
    exact {
      orderId := keyed.trans repeatable.order.symm
      courierPartner := records.courierPartner.trans repeatable.partner.symm
      courierOrderId := number.mpr repeatable.numbered
      awbNumber := by
        rw [Order.answer, records.awbNumber]
        exact orDefault_empty reply.awbNumber
      status := records.status }

structure World.Rereads (w : World) (orderData : NormalizedCreateOrderRequest) (row : Order)
    (t : World) (call : CreateOrder) : Prop where
  courierCalls : t.courierCalls = w.courierCalls
  orders : t.orders = w.orders
  events : t.events = w.events
  call : call = .findOne orderData ∨ call = .resolved row.answer

theorem World.Rereads.step {w t t' : World} {call call' : CreateOrder} {a : Answer}
    (rereads : w.Rereads orderData row t call) (stored : w.findOne orderData.orderId = some row)
    (closed : row.status.isOpen = false) (unfailing : ∀ error, a ≠ .dbError error)
    (stepped : step env t call a = some (t', call')) : w.Rereads orderData row t' call' := by
  obtain ⟨calls, orders, events, rfl | rfl⟩ := rereads
  · cases a with
    | ok =>
      cases stepped
      have found : t.findOne orderData.orderId = some row := by
        rw [World.findOne, orders]
        exact stored
      refine ⟨calls, orders, events, .inr ?_⟩
      rw [found, afterFindOne_closed closed]
    | dbError error => exact absurd rfl (unfailing error)
    | _ => cases stepped
  · cases a <;> cases stepped

theorem Label.unfailing_of_servesWell {i : Nat} {a : Answer}
    (h : State.servesWell i (settle i a) = true) (error : Thrown) : a ≠ .dbError error := by
  rintro rfl
  contradiction

theorem State.servesOnly_of_servesWell {i : Nat} {l : Label} (h : servesWell i l = true) :
    servesOnly i l = true := by
  cases l with
  | settle j a => cases a <;> first | exact h | contradiction
  | _ => exact h

theorem State.rereads {u : State} (stored : t.world.findOne orderData.orderId = some row)
    (closed : row.status.isOpen = false)
    (reach : (platform env).Reaches (fun _ l => servesWell t.tasks.length l = true)
      (t.receive orderData) u) :
    ∃ call, u.tasks = t.tasks ++ [.createOrder call] ∧
      t.world.Rereads orderData row u.world call :=
  State.last_invariant (t.world.Rereads orderData row) ⟨rfl, rfl, rfl, .inl rfl⟩
    (fun _ => servesOnly_of_servesWell)
    (fun _ _ _ _ _ rereads permitted stepped =>
      rereads.step stored closed (Label.unfailing_of_servesWell permitted) stepped)
    (fun _ _ _ rereads => ⟨rereads.courierCalls, rereads.orders, rereads.events, rereads.call⟩) reach

theorem State.receive_reads (env : Env) {u : State} {found : Option Order}
    (tasks : u.tasks = t.tasks ++ [.createOrder (.findOne orderData)])
    (stored : u.world.findOne orderData.orderId = found) :
    (platform env).Reaches (fun _ l => servesWell t.tasks.length l = true) u
      ⟨u.world, t.tasks ++ [.createOrder (afterFindOne orderData found)]⟩ := by
  obtain ⟨w, _⟩ := u
  cases tasks
  subst stored
  exact .step (.settle t.tasks.length .ok) .refl (by simp [servesWell, servesOnly])
    (next_settle_last rfl)

theorem State.receive_answers (env : Env) {u : State}
    (tasks : u.tasks = t.tasks ++ [.createOrder (.findOne orderData)])
    (stored : u.world.findOne orderData.orderId = some row) (closed : row.status.isOpen = false) :
    (platform env).Reaches (fun _ l => servesWell t.tasks.length l = true) u
      ⟨u.world, t.tasks ++ [.createOrder (.resolved row.answer)]⟩ := by
  have answered : afterFindOne orderData (some row) = .resolved row.answer :=
    afterFindOne_closed closed
  rw [← answered]
  exact State.receive_reads env tasks stored

theorem State.Repeats.agrees_of_closed (repeats : t.Repeats env orderData first)
    (stored : t.world.findOne orderData.orderId = some row) (closed : row.status.isOpen = false) :
    first.Agrees row.answer :=
  have answers : (platform env).Reaches _ (t.receive orderData) _ :=
    State.receive_answers env rfl stored closed
  repeats.agrees _ row.answer answers List.getElem?_concat_length

theorem State.repeats_iff_of_closed (stored : t.world.findOne orderData.orderId = some row)
    (records : row.Records (orderData.storedPartner prior) reply)
    (closed : row.status.isOpen = false) :
    t.Repeats env orderData reply ↔ reply.Repeatable orderData prior := by
  rw [← records.answers_iff (t.world.orderId_of_findOne stored) closed]
  constructor
  · exact fun repeats => repeats.agrees_of_closed stored closed
  · intro agrees
    refine ⟨fun u reach => ?_, fun u again reach resolved => ?_, fun u reach => ?_⟩
    · obtain ⟨call, -, rereads⟩ := State.rereads stored closed reach
      exact ⟨rereads.courierCalls, rereads.orders, rereads.events⟩
    · obtain ⟨call, tasks, rereads⟩ := State.rereads stored closed reach
      rw [tasks, List.getElem?_concat_length] at resolved
      cases resolved
      rcases rereads.call with reading | same
      · contradiction
      · cases same
        exact agrees
    · obtain ⟨call, tasks, rereads⟩ := State.rereads stored closed reach
      rcases rereads.call with rfl | rfl
      · have unchanged : u.world.findOne orderData.orderId = some row := by
          rw [World.findOne, rereads.orders]
          exact stored
        exact ⟨_, row.answer, State.receive_answers env tasks unchanged closed,
          List.getElem?_concat_length⟩
      · exact ⟨u, row.answer, .refl, by rw [tasks, List.getElem?_concat_length]⟩

theorem State.not_repeats_of_open (stored : t.world.findOne orderData.orderId = some row)
    (isOpen : row.status.isOpen = true)
    (registered : env.registry.get env.js orderData.courierPartner = .ok adapter) :
    ¬ t.Repeats env orderData first := by
  intro repeats
  have read : (platform env).Reaches _ (t.receive orderData) ⟨t.world, _⟩ :=
    State.receive_reads env rfl stored
  rw [afterFindOne_open isOpen] at read
  let refusal := Thrown.error "timeout"
  let persisted := row.assign t.world.now (pendingPatch orderData)
  let pending := t.world.updateOrder env row (pendingPatch orderData)
  have persists : step env t.world (.updateExisting orderData row) .ok =
      some (pending, .createShipment orderData persisted adapter) := by
    rw [step, dispatchWithFailureAudit, registered]
  have dispatches : step env pending (.createShipment orderData persisted adapter)
      (.refused refusal) = some (pending.record (.createShipment adapter orderData (.error refusal)),
        .updateFailed orderData persisted refusal) := rfl
  have booked := (read.step (.settle t.tasks.length .ok) (by simp [servesWell, servesOnly])
    (next_settle_last persists)).step (.settle t.tasks.length (.refused refusal))
    (by simp [servesWell, servesOnly]) (next_settle_last dispatches)
  have grown : (t.world.courierCalls ++ [CourierCall.createShipment adapter orderData (.error refusal)]) =
      t.world.courierCalls := (repeats.silent _ booked).1
  simp at grown

theorem State.toward
    (ran : (platform env).Reaches (fun _ l => servesOnly s.tasks.length l = true)
      (s.receive orderData) t)
    (returned : t.tasks[s.tasks.length]? = some (.createOrder (.resolved first))) :
    CreateOrder.Toward env orderData (s.world.findOne orderData.orderId) s.world.courierCalls
      (t.world.findOne orderData.orderId) t.world.courierCalls (.resolved first) := by
  obtain ⟨call, tasks, toward⟩ := State.last_invariant
    (fun w call => CreateOrder.Toward env orderData (s.world.findOne orderData.orderId)
      s.world.courierCalls (w.findOne orderData.orderId) w.courierCalls call)
    .reading (fun _ only => only)
    (fun _ _ _ _ _ toward _ stepped => toward.step (.of_step stepped)) (fun _ _ _ toward => toward) ran
  rw [tasks, List.getElem?_concat_length] at returned
  cases returned
  exact toward

theorem createOrder_books_once
    (ran : (platform env).Reaches (fun _ l => State.servesOnly s.tasks.length l = true)
      (s.receive orderData) t)
    (returned : t.tasks[s.tasks.length]? = some (.createOrder (.resolved first)))
    (calls : t.world.courierCalls.length ≠ s.world.courierCalls.length) :
    ∃ adapter, env.registry.get env.js orderData.courierPartner = .ok adapter ∧
      t.world.courierCalls =
        s.world.courierCalls ++ [.createShipment adapter orderData (.ok first)] := by
  have toward := State.toward ran returned
  generalize t.world.findOne orderData.orderId = current at toward
  generalize now : t.world.courierCalls = calls at toward
  cases toward with
  | answered => exact absurd (congrArg List.length now) calls
  | booked records registered => exact ⟨_, registered, rfl⟩

/-- A booking that succeeded is repeated without a trace exactly if the courier's reply has a status
under which the row is closed and names the order as the request does, the partner as the row does,
and an order number of the courier. -/
theorem createOrder_repeats_iff
    (ran : (platform env).Reaches (fun _ l => State.servesOnly s.tasks.length l = true)
      (s.receive orderData) t)
    (returned : t.tasks[s.tasks.length]? = some (.createOrder (.resolved first)))
    (called : t.world.courierCalls =
      s.world.courierCalls ++ [.createShipment adapter orderData (.ok reply)]) :
    t.Repeats env orderData first ↔
      reply.Repeatable orderData (s.world.findOne orderData.orderId) := by
  have toward := State.toward ran returned
  generalize stored : t.world.findOne orderData.orderId = current at toward
  rw [called] at toward
  generalize calls : s.world.courierCalls ++ [_] = now at toward
  cases toward with
  | answered => simp at calls
  | booked records registered =>
    cases List.append_cancel_left calls
    by_cases isOpen : first.status.isOpen = true
    · have notRepeats : ¬ t.Repeats env orderData first :=
        State.not_repeats_of_open stored (records.status ▸ isOpen) registered
      exact ⟨fun repeats => absurd repeats notRepeats,
        fun repeatable => absurd (repeatable.closed.symm.trans isOpen) (by decide)⟩
    · exact State.repeats_iff_of_closed stored records (by simpa [records.status] using isOpen)

end

def booksAs (reply : NormalizedCreateOrderResponse) : List Label :=
  [.settle 0 .ok, .settle 0 .ok, .settle 0 (.booked reply), .settle 0 .ok]

theorem createOrder_repeats_mock :
    ∃ t : State, t.world.courierCalls.length = 1 ∧
      t.Repeats (defaultEnv .postgres .named) (parcel "A-1" "mock")
        (bookingReply (parcel "A-1" "mock") "MCK1") := by
  let orderData := parcel "A-1" "mock"
  let reply := bookingReply orderData "MCK1"
  obtain ⟨t, ran, test⟩ := Machine.Reaches.of_run_any production
    (fun _ l => State.servesOnly 0 l = true) ((State.init .empty).receive orderData) (booksAs reply)
    (fun t => t.tasks[0]?.bind Task.createResponse? = some reply && t.world.courierCalls.length = 1)
    (by decide)
  obtain ⟨response, calls⟩ := Bool.and_eq_true_iff.mp test
  have returned := Task.of_createResponse? (of_decide_eq_true response)
  have one := of_decide_eq_true calls
  obtain ⟨adapter, -, called⟩ := createOrder_books_once (s := State.init .empty) ran returned
    (by rw [one]; decide)
  refine ⟨t, one, (createOrder_repeats_iff (s := State.init .empty) ran returned called).mpr ?_⟩
  exact ⟨rfl, rfl, rfl, fun empty => absurd empty (by decide)⟩

/-- The registry resolves any spelling of the name, and the row keeps the spelling of the
request. -/
theorem createOrder_repeats_otherwise :
    ¬ ∀ env formats (s t : State) orderData adapter first reply,
      createOrderSchema formats orderData = true →
      (platform env).Reaches (fun _ l => State.servesOnly s.tasks.length l = true)
        (s.receive orderData) t →
      t.tasks[s.tasks.length]? = some (.createOrder (.resolved first)) →
      t.world.courierCalls =
        s.world.courierCalls ++ [.createShipment adapter orderData (.ok reply)] →
      t.Repeats env orderData first := by
  intro claim
  let orderData := parcel "A-1" " Mock "
  let reply := { bookingReply orderData "MCK1" with
    courierPartner := "mock", courierOrderId := "MCK-ORD-A-1" }
  let formats : Formats := ⟨fun _ => true, fun _ => true⟩
  obtain ⟨t, ran, test⟩ := Machine.Reaches.of_run_any production
    (fun _ l => State.servesOnly 0 l = true) ((State.init .empty).receive orderData) (booksAs reply)
    (fun t => t.tasks[0]?.bind Task.createResponse? = some reply &&
      t.world.courierCalls.length = 1 && (t.world.findOne "A-1").any fun row =>
        row.courierPartner = " Mock " && !row.status.isOpen) (by decide)
  simp only [Bool.and_eq_true, decide_eq_true_eq, Option.any_eq_true, Bool.not_eq_true'] at test
  obtain ⟨⟨response, one⟩, row, stored, partner, closed⟩ := test
  have returned := Task.of_createResponse? response
  obtain ⟨adapter, -, called⟩ := createOrder_books_once (s := State.init .empty) ran returned
    (by rw [one]; decide)
  have repeats := claim _ formats (State.init .empty) t orderData adapter reply reply (by decide) ran
    returned called
  have same : row.courierPartner = "mock" := (repeats.agrees_of_closed stored closed).courierPartner
  exact absurd (partner.symm.trans same) (by decide)

end CourierPlatform
