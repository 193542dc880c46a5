import CourierPlatform.Proofs.BatchRun
import CourierPlatform.Spec.Tracking

/-! The results of a batch against the calls that were made for it. Each item that is served is served
by a courier that books it or from the row of an active order, and the result does not say which. -/
namespace CourierPlatform
open Library OrderService

def CourierCall.booksShipment : CourierCall → Bool
  | createShipment _ _ (.ok _) => true
  | _ => false

def World.shipments (w : World) : Nat := w.courierCalls.countP CourierCall.booksShipment

def CreateOrder.served : CreateOrder → Bool
  | saveUpdate .. => true
  | saveEvent .. => true
  | resolved _ => true
  | _ => false

def CreateOrder.findsActive (w : World) : CreateOrder → Answer → Bool
  | findOne orderData, .ok => (w.findOne orderData.orderId).any fun row => !row.status.isOpen
  | _, _ => false

def Task.servedItem : Task → Bool
  | bulkItem _ _ call => call.served
  | _ => false

def State.hit? (s : State) : Label → Option Nat
  | .settle i a =>
    match s.tasks[i]? with
    | some (.bulkItem _ k call) => if call.findsActive s.world a then some k else none
    | _ => none
  | _ => none

def noteHits (s : State) (l : Label) (_ : State) (hits : List Nat) : List Nat :=
  hits ++ (s.hit? l).toList

/-- The results count one `SUCCESS` for each booking that the couriers made since `w`, and name
`SKIPPED_IDEMPOTENT` the items that were answered from an active order. -/
structure Accounted (w : World) (s : State) (results : List BulkOrderItemResult) (hits : List Nat) :
    Prop where
  booked : s.world.shipments = w.shipments + results.countP (·.status = .success)
  skipped : ∀ (k : Nat) (result : BulkOrderItemResult), results[k]? = some result →
    (result.status = .skippedIdempotent ↔ k ∈ hits)

section
variable {env : Env} {w w' : World} {s t : State} {l : Label} {a : Answer} {hits : List Nat}
  {orders : List NormalizedCreateOrderRequest} {call call' : CreateOrder}

theorem World.shipments_record (w : World) (made : CourierCall) :
    (w.record made).shipments = w.shipments + made.booksShipment.toNat := by
  simp only [shipments, record, List.countP_append, List.countP_singleton]
  cases made.booksShipment <;> rfl

theorem served_dispatch (orderData : NormalizedCreateOrderRequest) (persisted : Order) :
    (dispatchWithFailureAudit env orderData persisted).served = false := by
  rcases dispatch_cases env orderData persisted with ⟨unknown, same⟩ | ⟨adapter, -, same⟩ <;>
    rw [same] <;> rfl

theorem OrderService.Moves.shipments (moved : Moves env w call a w' call')
    (answered : ∀ error, a ≠ .dbError error) :
    w'.shipments + (call.findsActive w a).toNat + call.served.toNat =
      w.shipments + call'.served.toNat := by
  cases moved with
  | answeredFromRow found closed => simp [CreateOrder.findsActive, found, closed, CreateOrder.served]
  | readOpen found isOpen => simp [CreateOrder.findsActive, found, isOpen, CreateOrder.served]
  | readNone absent => simp [CreateOrder.findsActive, absent, CreateOrder.served]
  | prePersisted => rw [served_dispatch]; rfl
  | inserted inserted =>
    rw [served_dispatch, World.shipments, World.createOrder?_courierCalls w inserted]
    rfl
  | booked => rw [World.shipments_record]; rfl
  | refused => rw [World.shipments_record]; rfl
  | failed awaits error => exact absurd rfl (answered _)
  | _ => rfl

theorem BulkOrderService.Moves.shipments {bulk bulk' : BulkOrder} (moved : Moves w bulk a w' bulk') :
    w'.shipments = w.shipments := by
  cases moved <;> rfl

structure State.Balanced (w : World) (orders : List NormalizedCreateOrderRequest) (s : State)
    (hits : List Nat) : Prop where
  shape : s.BatchShape orders
  balance : s.world.shipments + hits.length = w.shipments + s.tasks.countP Task.servedItem

theorem State.hit?_item {k : Nat} (found : s.tasks[k + 1]? = some (.bulkItem 0 k call)) :
    (s.hit? (.settle (k + 1) a)).toList.length = (call.findsActive s.world a).toNat := by
  simp only [hit?, found]
  cases call.findsActive s.world a <;> rfl

theorem State.hit?_head {bulk : BulkOrder} (head : s.tasks[0]? = some (.createBulkOrders bulk)) :
    s.hit? (.settle 0 a) = none := by
  simp only [hit?, head]

theorem State.Balanced.next (h : s.Balanced w orders hits) (only : s.onlyBatch l = true)
    (moved : (platform env).next s l = some t) : t.Balanced w orders (noteHits s l t hits) := by
  refine ⟨h.shape.next only moved, ?_⟩
  have moves := State.Moves.of_next moved
  have balance := h.balance
  obtain ⟨bulk, head, -⟩ := h.shape.bulk
  unfold noteHits
  rw [List.length_append]
  cases moves with
  | started request => contradiction
  | died dead => contradiction
  | ticked ms => exact balance
  | @settled i a task w' task' awaiting step =>
    have count := countP_set_add (p := Task.servedItem) task' awaiting
    cases i with
    | zero =>
      rw [State.hit?_head head]
      cases head.symm.trans awaiting
      cases step with
      | createBulkOrders step =>
        have same := step.shipments
        simp only [Task.servedItem, Bool.toNat_false] at count
        simp only [Option.toList_none, List.length_nil]
        omega
    | succ k =>
      obtain ⟨⟨call, rfl⟩, -⟩ := h.shape.items k _ awaiting
      rw [State.hit?_item awaiting]
      cases step with
      | bulkItem step =>
        have shipped := step.shipments (by
          rintro error rfl
          simp [State.onlyBatch, awaiting, Task.bulkInserts] at only)
        simp only [Task.servedItem] at count
        dsimp only
        omega
  | @itemStarted i batchId requests currentIndex orderItem awaiting item =>
    have count := countP_set_add (p := Task.servedItem)
      (.createBulkOrders (.executing batchId requests (currentIndex + 1))) awaiting
    simp only [Task.servedItem, Bool.toNat_false] at count
    simp only [State.hit?, Option.toList_none, List.length_nil, List.countP_append,
      List.countP_singleton, Task.servedItem, OrderService.createOrder, CreateOrder.served,
      Bool.false_eq_true, if_false]
    omega
  | @collected i batchId requests currentIndex results awaiting all settled =>
    have count := countP_set_add (p := Task.servedItem)
      (.createBulkOrders (.updateBatchRecord batchId requests results)) awaiting
    simp only [Task.servedItem, Bool.toNat_false] at count
    simp only [State.hit?, Option.toList_none, List.length_nil]
    omega

theorem State.Balanced.of_started {batchId : String}
    (began : (platform env).next (.init w) (.start (.createBulkOrders orders batchId)) = some s) :
    s.Balanced w orders [] := by
  refine ⟨.of_started began, ?_⟩
  cases Option.some.inj began
  rfl

theorem itemResult_status {orderData : NormalizedCreateOrderRequest} {result : BulkOrderItemResult}
    (h : BulkOrderService.itemResult orderData call = some result) :
    result.status = if call.served then .success else .failed := by
  cases call <;> cases h <;> rfl

theorem State.Reported.started {results : List BulkOrderItemResult} (h : s.Reported orders results)
    {k : Nat} (inside : k < orders.length) : ∃ task, s.tasks[k + 1]? = some task := by
  by_contra missing
  have absent : s.tasks[k + 1]? = none := by
    cases found : s.tasks[k + 1]? with
    | none => rfl
    | some task => exact absurd ⟨task, found⟩ missing
  have result := h.result k _ (List.getElem?_eq_getElem inside)
  have unstarted (orderData : NormalizedCreateOrderRequest) :
      s.callAt (k + 1) orderData = createOrder orderData := by
    rw [State.callAt, absent]
    rfl
  rw [unstarted, List.getElem?_eq_getElem (h.length ▸ inside)] at result
  contradiction

theorem State.Reported.served {results : List BulkOrderItemResult} (h : s.Reported orders results)
    (shape : s.BatchShape orders) :
    s.tasks.countP Task.servedItem = results.countP (·.status = .success) := by
  obtain ⟨bulk, head, -⟩ := shape.bulk
  cases tasks : s.tasks with
  | nil =>
    rw [tasks] at head
    contradiction
  | cons first items =>
    have behind (k : Nat) : items[k]? = s.tasks[k + 1]? := by rw [tasks, List.getElem?_cons_succ]
    rw [tasks] at head
    cases Option.some.inj head
    have length : items.length = results.length := by
      rw [h.length]
      apply Nat.le_antisymm
      · by_contra beyond
        have found := List.getElem?_eq_getElem (Nat.lt_of_not_le beyond)
        rw [behind] at found
        exact absurd (shape.items _ _ found).2 (Nat.lt_irrefl _)
      · by_contra short
        obtain ⟨task, found⟩ := h.started (Nat.lt_of_not_le short)
        rw [← behind] at found
        exact absurd (List.getElem?_eq_some_iff.mp found).1 (Nat.lt_irrefl _)
    rw [List.countP_cons, if_neg (by exact Bool.false_ne_true), Nat.add_zero]
    apply countP_eq_of_getElem? length
    intro k task result item reported
    rw [behind] at item
    obtain ⟨⟨call, rfl⟩, inside⟩ := shape.items k task item
    have same := h.result k _ (List.getElem?_eq_getElem inside)
    rw [reported, State.callAt_of_runs item .item] at same
    rw [itemResult_status same.symm]
    cases served : call.served <;> simp [Task.servedItem, served]

/-- The results of a batch account for its bookings if and only if no item was answered from an active
order: such an item is reported as `SUCCESS`, and nothing is ever reported as skipped. -/
theorem batch_accounted_iff {batchId : String} {response : BulkOrderResponse}
    (began : (platform env).next (.init w) (.start (.createBulkOrders orders batchId)) = some s)
    (ran : ((platform env).observed noteHits).Reaches (fun s l => s.1.onlyBatch l = true) (s, [])
      (t, hits))
    (returned : t.tasks[0]? = some (.createBulkOrders (.resolved response))) :
    Accounted w t response.results hits ↔ hits = [] := by
  have balanced : t.Balanced w orders hits := by
    refine @Machine.Reaches.observed_invariant _ _ _ (fun s l => s.onlyBatch l = true) _ _ _ _ _ _
      (State.Balanced w orders) (.of_started began) ?_ ran
    intro a l b g inv only moved
    exact inv.next only moved
  obtain ⟨bulk, head, reported⟩ := balanced.shape.bulk
  cases returned.symm.trans head
  have served := State.Reported.served reported balanced.shape
  have balance := balanced.balance
  constructor
  · intro accounted
    have booked := accounted.booked
    exact List.eq_nil_of_length_eq_zero (by omega)
  · rintro rfl
    rw [List.length_nil] at balance
    refine ⟨by omega, ?_⟩
    intro k result found
    have inside := (List.getElem?_eq_some_iff.mp found).1
    rw [State.Reported.length reported] at inside
    have same := State.Reported.result reported k _ (List.getElem?_eq_getElem inside)
    rw [found] at same
    rw [itemResult_status same.symm]
    split <;> simp

end
def parcelBatch : List Label := [.settle 0 .ok, .settle 0 .ok, .startItem 0]

def batchArrived (w : World) : State :=
  ⟨w, [.createBulkOrders (BulkOrderService.createBulkOrders [parcel "A-1" "mock"] "B-1")]⟩

theorem batch_accounted_booked :
    ∃ (t : State) (response : BulkOrderResponse), t.world.shipments = 1 ∧
      (Accounted .empty t response.results [] ↔ ([] : List Nat) = []) := by
  obtain ⟨⟨t, hits⟩, ran, test⟩ := Machine.Reaches.of_run_any (production.observed noteHits)
    (fun s l => s.1.onlyBatch l = true) (batchArrived .empty, [])
    (parcelBatch ++ [.settle 1 .ok, .settle 1 .ok,
      .settle 1 (.booked (bookingReply (parcel "A-1" "mock") "MCK1")), .settle 1 .ok, .collect 0,
      .settle 0 .ok])
    (fun s => s.1.world.shipments = 1 && s.2 = [] && (s.1.tasks[0]?.bind Task.bulkResponse?).isSome)
    (by decide)
  simp only [Bool.and_eq_true, decide_eq_true_eq] at test
  obtain ⟨⟨shipped, rfl⟩, returned⟩ := test
  obtain ⟨response, answered⟩ := Option.isSome_iff_exists.mp returned
  obtain ⟨task, head, same⟩ := Option.bind_eq_some_iff.mp answered
  cases Task.eq_of_bulkResponse? same
  exact ⟨t, response, shipped, batch_accounted_iff rfl ran head⟩

/-- A batch with an order that is active already: its result is `SUCCESS` although no courier was
called for it. -/
theorem active_order_reported_as_success :
    ¬ ∀ env w orders batchId s t hits response,
      (platform env).next (.init w) (.start (.createBulkOrders orders batchId)) = some s →
      ((platform env).observed noteHits).Reaches (fun s l => s.1.onlyBatch l = true) (s, [])
        (t, hits) →
      t.tasks[0]? = some (.createBulkOrders (.resolved response)) →
      Accounted w t response.results hits := by
  intro claim
  obtain ⟨⟨t, hits⟩, ran, test⟩ := Machine.Reaches.of_run_any (production.observed noteHits)
    (fun s l => s.1.onlyBatch l = true) (batchArrived bookedParcel, [])
    (parcelBatch ++ [.settle 1 .ok, .collect 0, .settle 0 .ok])
    (fun s => s.1.world.shipments = 0 && (s.1.tasks[0]?.bind Task.bulkResponse?).any
      fun response => response.results.countP (·.status = .success) = 1) (by decide)
  simp only [Bool.and_eq_true, decide_eq_true_eq] at test
  obtain ⟨unshipped, returned⟩ := test
  obtain ⟨response, answered, one⟩ := (Option.any_eq_true _ _).mp returned
  obtain ⟨task, head, same⟩ := Option.bind_eq_some_iff.mp answered
  cases Task.eq_of_bulkResponse? same
  have booked := (claim _ _ _ _ _ _ _ response rfl ran head).booked
  rw [unshipped, of_decide_eq_true one] at booked
  contradiction

end CourierPlatform
