import Mathlib.Algebra.GroupWithZero.Nat
import CourierPlatform.Proofs.BacklogDone

/-! The calls of adapters, accounted for by the requests that came in. -/
namespace CourierPlatform
open Library

inductive CallKind where
  | booking | tracking | cancelling
deriving DecidableEq

def CourierCall.kind : CourierCall → CallKind
  | createShipment .. => .booking
  | trackShipment .. => .tracking
  | cancelShipment .. => .cancelling

def CreateOrder.calling? : CreateOrder → Option CallKind
  | createShipment .. => some .booking
  | _ => none

def Task.calling? : Task → Option CallKind
  | createOrder call => call.calling?
  | bulkItem _ _ call => call.calling?
  | trackOrder (.trackShipment ..) => some .tracking
  | cancelOrder (.cancelShipment ..) => some .cancelling
  | reconcile (.createShipment ..) => some .booking
  | _ => none

def State.resumed (s : State) : Label → Option Nat
  | .start _ => some s.tasks.length
  | .settle i _ => some i
  | .startItem _ => some s.tasks.length
  | .collect i => some i
  | _ => none

def CallKind.one (kind other : CallKind) : Nat := [other].count kind

/-- The calls of a kind that a request may cause. -/
def Request.allowance (kind : CallKind) : Request → Nat
  | createOrder _ => kind.one .booking
  | createBulkOrders orders _ => orders.length * kind.one .booking
  | trackOrder _ => kind.one .tracking
  | cancelOrder _ _ => kind.one .cancelling
  | reconcilePendingOrders => ReconciliationWorker.batchLimit * kind.one .booking

def noteRequest (_ : State) (l : Label) (_ : State) (requests : List Request) : List Request :=
  match l with
  | .start request => requests ++ [request]
  | _ => requests

/-- The requests that have come in, and the adapter calls that were made: one each time a task comes
to wait for its adapter, whether or not the answer ever finds it alive. -/
structure Account where
  requests : List Request
  calls : List CallKind

def Account.note (s : State) (l : Label) (t : State) (account : Account) : Account where
  requests := noteRequest s l t account.requests
  calls := account.calls ++ (((s.resumed l).bind (t.tasks[·]?)).bind Task.calling?).toList

/-! ## What a call in flight may still do -/

def CreateOrder.mayBook : CreateOrder → Nat
  | findOne _ => 1
  | updateExisting _ _ => 1
  | createRow _ => 1
  | _ => 0

def BulkOrder.mayBook : BulkOrder → Nat
  | initBatchRecord _ orders => orders.length
  | prePersistAll _ orders => orders.length
  | executing _ orders currentIndex => orders.length - currentIndex
  | _ => 0

def Reconcile.mayBook : Reconcile → Nat
  | findAll _ => ReconciliationWorker.batchLimit
  | updateUnsupported _ _ rest _ => rest.length
  | createShipment _ _ _ rest _ => rest.length
  | updateCreated _ _ _ rest _ => rest.length
  | createEvent _ _ _ rest _ => rest.length
  | updateCaught _ _ _ rest _ => rest.length
  | _ => 0

def Task.allowance (kind : CallKind) : Task → Nat
  | createOrder call => call.mayBook * kind.one .booking
  | bulkItem _ _ call => call.mayBook * kind.one .booking
  | createBulkOrders call => call.mayBook * kind.one .booking
  | trackOrder (.fetchOrder _) => kind.one .tracking
  | trackOrder _ => 0
  | cancelOrder (.fetchOrder _ _) => kind.one .cancelling
  | cancelOrder _ => 0
  | reconcile cycle => cycle.mayBook * kind.one .booking
  | crashed => 0

def Task.calls (kind : CallKind) (task : Task) : Nat := task.calling?.toList.count kind

def World.called (w : World) (kind : CallKind) : Nat :=
  w.courierCalls.countP fun call => call.kind = kind

/-! ## One step -/

section
variable {env : Env} {w w' : World} {a : Answer} {kind : CallKind}

theorem World.called_record (call : CourierCall) :
    (w.record call).called kind = w.called kind + kind.one call.kind := by
  simp [called, CallKind.one, List.countP_cons, List.count_cons]

theorem CallKind.none_begun (kind : CallKind) {fewer more : Nat} (le : fewer ≤ more) :
    0 + fewer * kind.one .booking ≤ more * kind.one .booking := by
  rw [Nat.zero_add]
  exact Nat.mul_le_mul_right _ le

theorem OrderService.dispatch_accounts (orderData : NormalizedCreateOrderRequest) (persisted : Order) :
    (Task.createOrder (dispatchWithFailureAudit env orderData persisted)).calls kind +
      (dispatchWithFailureAudit env orderData persisted).mayBook * kind.one .booking ≤
        1 * kind.one .booking := by
  unfold dispatchWithFailureAudit
  split
  · exact kind.none_begun (Nat.zero_le 1)
  · change kind.one .booking + 0 * kind.one .booking ≤ 1 * kind.one .booking
    rw [Nat.zero_mul, Nat.one_mul]
    exact Nat.le_refl _

theorem OrderService.Moves.accounts {call call' : CreateOrder}
    (moved : OrderService.Moves env w call a w' call') :
    (Task.createOrder call').calls kind + call'.mayBook * kind.one .booking ≤
      call.mayBook * kind.one .booking := by
  cases moved with
  | prePersisted => exact dispatch_accounts ..
  | inserted => exact dispatch_accounts ..
  | answeredFromRow => exact kind.none_begun (Nat.zero_le 1)
  | duplicate => exact kind.none_begun (Nat.zero_le 1)
  | failed => exact kind.none_begun (Nat.zero_le _)
  | _ => exact kind.none_begun (Nat.le_refl _)

theorem BulkOrderService.Moves.mayBook {call call' : BulkOrder}
    (moved : BulkOrderService.Moves w call a w' call') : call'.mayBook ≤ call.mayBook := by
  cases moved with
  | failed => exact Nat.zero_le _
  | _ => exact Nat.le_refl _

theorem TrackingService.nextEvent_accounts (order : Order) (reply : NormalizedTrackingResponse)
    (rest : List TrackingEventItem) :
    (Task.trackOrder (nextEvent order reply rest)).calls kind +
      (Task.trackOrder (nextEvent order reply rest)).allowance kind = 0 := by
  cases rest <;> rfl

theorem TrackingService.updateStatus_accounts (order : Order) (reply : NormalizedTrackingResponse) :
    (Task.trackOrder (updateOrderStatusIfChanged order reply)).calls kind +
      (Task.trackOrder (updateOrderStatusIfChanged order reply)).allowance kind = 0 := by
  unfold updateOrderStatusIfChanged
  split
  · rfl
  · exact nextEvent_accounts ..

theorem TrackingService.Moves.accounts {call call' : TrackOrder}
    (moved : TrackingService.Moves env w call a w' call') :
    (Task.trackOrder call').calls kind + (Task.trackOrder call').allowance kind ≤
      (Task.trackOrder call).allowance kind := by
  cases moved with
  | read => exact Nat.le_refl _
  | tracked => exact (updateStatus_accounts ..).trans_le (Nat.zero_le _)
  | statusUpdated => exact (nextEvent_accounts ..).trans_le (Nat.zero_le _)
  | eventFound => exact (nextEvent_accounts ..).trans_le (Nat.zero_le _)
  | eventAdded => exact (nextEvent_accounts ..).trans_le (Nat.zero_le _)
  | _ => exact Nat.zero_le _

theorem CancellationService.Moves.accounts {call call' : CancelOrder}
    (moved : CancellationService.Moves env w call a w' call') :
    (Task.cancelOrder call').calls kind + (Task.cancelOrder call').allowance kind ≤
      (Task.cancelOrder call).allowance kind := by
  cases moved with
  | read => exact Nat.le_refl _
  | _ => exact Nat.zero_le _

theorem ReconciliationWorker.nextOrder_accounts (count : Nat) (rest : List Order) :
    (Task.reconcile (nextOrder env count rest)).calls kind +
      (nextOrder env count rest).mayBook * kind.one .booking ≤ rest.length * kind.one .booking := by
  cases rest with
  | nil => exact kind.none_begun (Nat.zero_le 0)
  | cons order rest =>
    rw [nextOrder, List.length_cons]
    rcases reconcileSingleOrder_cases env order rest count with ⟨adapter, -, same⟩ | same
    · rw [same, Reconcile.mayBook, Nat.succ_mul, Nat.add_comm]
      exact Nat.le_refl _
    · rw [same, Reconcile.mayBook]
      exact kind.none_begun (Nat.le_succ _)

theorem ReconciliationWorker.Moves.accounts {cycle cycle' : Reconcile}
    (moved : ReconciliationWorker.Moves env w cycle a w' cycle') :
    (Task.reconcile cycle').calls kind + cycle'.mayBook * kind.one .booking ≤
      cycle.mayBook * kind.one .booking := by
  cases moved with
  | selected result =>
    exact (nextOrder_accounts ..).trans (Nat.mul_le_mul_right _ (length_le_of_isResult result))
  | unsupported => exact nextOrder_accounts ..
  | recovered => exact nextOrder_accounts ..
  | caught => exact nextOrder_accounts ..
  | aborted => exact kind.none_begun (Nat.zero_le _)
  | _ => exact kind.none_begun (Nat.le_refl _)

theorem Task.Moves.accounts {task task' : Task} (moved : Task.Moves env w task a w' task')
    (kind : CallKind) : task'.calls kind + task'.allowance kind ≤ task.allowance kind := by
  cases moved with
  | createOrder moved => exact moved.accounts
  | bulkItem moved => exact moved.accounts
  | createBulkOrders moved => exact kind.none_begun moved.mayBook
  | trackOrder moved => exact moved.accounts
  | cancelOrder moved => exact moved.accounts
  | reconcile moved => exact moved.accounts

theorem Task.Moves.answers {task task' : Task} (moved : Task.Moves env w task a w' task')
    (kind : CallKind) : w'.called kind ≤ w.called kind + task.calls kind := by
  have unchanged (same : w'.courierCalls = w.courierCalls) :
      w'.called kind ≤ w.called kind + task.calls kind := by
    rw [World.called, same]
    exact Nat.le_add_right _ _
  have ofOrder {call call' : CreateOrder} (moved : OrderService.Moves env w call a w' call')
      (same : task.calls kind = (Task.createOrder call).calls kind) :
      w'.called kind ≤ w.called kind + task.calls kind := by
    cases moved with
    | booked => exact same ▸ (World.called_record _).le
    | refused => exact same ▸ (World.called_record _).le
    | inserted created => exact unchanged (World.createOrder?_courierCalls w created)
    | _ => exact unchanged rfl
  cases moved with
  | createOrder moved => exact ofOrder moved rfl
  | bulkItem moved => exact ofOrder moved rfl
  | createBulkOrders moved => cases moved <;> exact unchanged rfl
  | trackOrder moved =>
    cases moved with
    | tracked => exact (World.called_record _).le
    | refused => exact (World.called_record _).le
    | _ => exact unchanged rfl
  | cancelOrder moved =>
    cases moved with
    | agreed => exact (World.called_record _).le
    | refused => exact (World.called_record _).le
    | _ => exact unchanged rfl
  | reconcile moved =>
    cases moved with
    | booked => exact (World.called_record _).le
    | refused => exact (World.called_record _).le
    | _ => exact unchanged rfl

end

/-! ## The run -/

section
variable {env : Env} {s t : State} {l : Label} {kind : CallKind} {account : Account}

/-- No more calls are answered than were made, and those made and those that may still be made are
paid for by the requests. -/
structure Account.Covers (account : Account) (kind : CallKind) (s : State) : Prop where
  answered : s.world.called kind + UniqueTable.totalOf (Task.calls kind) s.tasks ≤
    account.calls.count kind
  allowed : account.calls.count kind + UniqueTable.totalOf (Task.allowance kind) s.tasks ≤
    (account.requests.map (Request.allowance kind)).sum

theorem Request.start_calls (now : Int) (request : Request) :
    (request.start env now).calling? = none := by
  cases request <;> rfl

theorem Request.start_allowance (now : Int) (request : Request) :
    (request.start env now).allowance kind = request.allowance kind := by
  cases request <;> simp [start, Task.allowance, allowance, OrderService.createOrder,
    BulkOrderService.createBulkOrders, TrackingService.trackOrder, CancellationService.cancelOrder,
    ReconciliationWorker.reconcilePendingOrders, CreateOrder.mayBook, BulkOrder.mayBook,
    Reconcile.mayBook]

theorem Account.note_settle {i : Nat} {a : Answer} {task task' : Task} {w' : World}
    (awaiting : s.tasks[i]? = some task) :
    ((note s (.settle i a) ⟨w', s.tasks.set i task'⟩ account).calls).count kind =
      account.calls.count kind + task'.calls kind := by
  simp only [note, State.resumed, Option.bind_some, getElem?_set_of_some awaiting, List.count_append]
  rfl

theorem Account.note_silent (silent : ((s.resumed l).bind (t.tasks[·]?)).bind Task.calling? = none) :
    (note s l t account).calls = account.calls := by
  rw [note, silent]
  exact List.append_nil _

theorem Account.Covers.silent (covers : account.Covers kind s)
    (silent : ((s.resumed l).bind (t.tasks[·]?)).bind Task.calling? = none)
    (noRequest : noteRequest s l t account.requests = account.requests)
    (answered : t.world.called kind = s.world.called kind)
    (calls : UniqueTable.totalOf (Task.calls kind) t.tasks ≤
      UniqueTable.totalOf (Task.calls kind) s.tasks)
    (allowed : UniqueTable.totalOf (Task.allowance kind) t.tasks ≤
      UniqueTable.totalOf (Task.allowance kind) s.tasks) :
    (Account.note s l t account).Covers kind t where
  answered := by
    rw [note_silent silent, answered]
    exact (Nat.add_le_add_left calls _).trans covers.answered
  allowed := by
    rw [note_silent silent]
    change _ ≤ ((noteRequest s l t account.requests).map (Request.allowance kind)).sum
    rw [noRequest]
    exact (Nat.add_le_add_left allowed _).trans covers.allowed

theorem Account.Covers.next (covers : account.Covers kind s) (moves : State.Moves env s l t) :
    (Account.note s l t account).Covers kind t := by
  cases moves with
  | started request =>
    obtain ⟨answered, allowed⟩ := covers
    have silent : (note s (.start request) ⟨s.world, s.tasks ++ [request.start env s.world.now]⟩
        account).calls = account.calls := note_silent (by simp [State.resumed, Request.start_calls])
    refine ⟨?_, ?_⟩
    · rw [silent, UniqueTable.totalOf_append, Task.calls, Request.start_calls]
      exact answered
    · rw [silent, UniqueTable.totalOf_append, Request.start_allowance, ← Nat.add_assoc]
      simpa [note, noteRequest] using Nat.add_le_add_right allowed (request.allowance kind)
  | @settled i a task w' task' awaiting moved =>
    obtain ⟨answered, allowed⟩ := covers
    have begun := UniqueTable.totalOf_set (Task.calls kind) task' awaiting
    have left := UniqueTable.totalOf_set (Task.allowance kind) task' awaiting
    have recorded := moved.answers kind
    have paid := moved.accounts kind
    refine ⟨?_, ?_⟩ <;> rw [note_settle awaiting] <;> dsimp only [note, noteRequest] <;> omega
  | @itemStarted i batchId orders currentIndex orderItem awaiting item =>
    have bound := (List.getElem?_eq_some_iff.mp item).1
    have begun := UniqueTable.totalOf_set (Task.calls kind)
      (.createBulkOrders (.executing batchId orders (currentIndex + 1))) awaiting
    have left := UniqueTable.totalOf_set (Task.allowance kind)
      (.createBulkOrders (.executing batchId orders (currentIndex + 1))) awaiting
    have split : (orders.length - currentIndex) * kind.one .booking =
        (orders.length - (currentIndex + 1)) * kind.one .booking + 1 * kind.one .booking := by
      rw [← Nat.add_mul]
      congr 1
      omega
    refine covers.silent ?_ rfl rfl ?_ ?_
    · simp [State.resumed, Task.calling?, OrderService.createOrder, CreateOrder.calling?]
    · rw [UniqueTable.totalOf_append]
      exact begun.le
    · simp only [UniqueTable.totalOf_append, Task.allowance, BulkOrder.mayBook,
        OrderService.createOrder, CreateOrder.mayBook] at left ⊢
      omega
  | @collected i batchId orders currentIndex results awaiting all settled =>
    have begun := UniqueTable.totalOf_set (Task.calls kind)
      (.createBulkOrders (.updateBatchRecord batchId orders results)) awaiting
    have left := UniqueTable.totalOf_set (Task.allowance kind)
      (.createBulkOrders (.updateBatchRecord batchId orders results)) awaiting
    refine covers.silent ?_ rfl rfl begun.le ?_
    · simp [State.resumed, getElem?_set_of_some awaiting, Task.calling?]
    · simp only [Task.allowance, BulkOrder.mayBook, Nat.zero_mul] at left ⊢
      omega
  | died dead =>
    refine covers.silent rfl rfl rfl (UniqueTable.totalOf_mapIdx_le (Task.calls kind) s.tasks _ ?_)
      (UniqueTable.totalOf_mapIdx_le (Task.allowance kind) s.tasks _ ?_) <;>
    · intro j task
      split
      · exact Nat.zero_le _
      · exact Nat.le_refl _
  | ticked ms => exact covers.silent rfl rfl rfl (Nat.le_refl _) (Nat.le_refl _)

/-- Whatever happens, the adapters are called no more often than the requests account for: once for
an order that is submitted, tracked or cancelled, once for each order of a batch, and at most 25 times
for a cycle of the worker. That is so of the calls made, and no others are ever answered. -/
theorem courier_calls_accounted
    (reach : ((platform env).observed Account.note).Reaches (fun _ _ => True)
      (.init .empty, ⟨[], []⟩) (s, account)) (kind : CallKind) :
    s.world.called kind ≤ account.calls.count kind ∧
      account.calls.count kind ≤ (account.requests.map (Request.allowance kind)).sum := by
  have covers : account.Covers kind s :=
    @Machine.Reaches.observed_invariant _ _ _ (fun _ _ => True) _ _ _ _ _ _
      (fun s account => account.Covers kind s) ⟨Nat.le_refl _, Nat.le_refl _⟩
      (fun _ _ _ _ inv _ moved => inv.next (State.Moves.of_next moved)) reach
  exact ⟨(Nat.le_add_right _ _).trans covers.answered, (Nat.le_add_right _ _).trans covers.allowed⟩

end

theorem courier_calls_accounted_batch :
    ∃ (s : State) (account : Account),
      account.requests.map (Request.allowance .booking) = [2, 0, 1] ∧
        account.calls.count .booking = 3 ∧ s.world.called .booking = 2 ∧
        account.calls.count .booking ≤
          (account.requests.map (Request.allowance .booking)).sum := by
  obtain ⟨⟨s, account⟩, ran, test⟩ := Machine.Reaches.of_run_any
    (production.observed Account.note) (fun _ _ => True) (.init .empty, ⟨[], []⟩)
    [.start (.createBulkOrders [parcel "A-1" "mock", parcel "A-2" "mock"] "B-1"), .settle 0 .ok,
      .settle 0 .ok, .startItem 0, .startItem 0, .settle 1 .ok, .settle 1 .ok, .settle 2 .ok,
      .settle 2 .ok, .settle 1 (.refused (.error "timeout")), .start (.trackOrder "A-2"),
      .settle 3 .ok, .crash [0, 2], .settle 1 .ok, .start (.createOrder (parcel "A-1" "mock")),
      .settle 4 .ok, .settle 4 .ok, .settle 4 (.booked (bookingReply (parcel "A-1" "mock") "MCK1"))]
    (fun s => s.2.requests.map (Request.allowance .booking) = [2, 0, 1] &&
      s.2.calls.count .booking = 3 && s.1.world.called .booking = 2)
    (by decide)
  simp only [Bool.and_eq_true, decide_eq_true_eq] at test
  exact ⟨s, account, test.1.1, test.1.2, test.2, (courier_calls_accounted ran .booking).2⟩

end CourierPlatform
