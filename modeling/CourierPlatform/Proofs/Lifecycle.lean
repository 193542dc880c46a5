import CourierPlatform.Proofs.Turns

/-! How the stored status moves after booking. `trackOrder` mirrors what the courier
reports, `cancelOrder` respects the end of the lifecycle; the status moves backwards
only as far as the reports do. -/
namespace CourierPlatform
open Library

namespace ShipmentStatus

/-- The place along `CREATED < PICKED_UP < IN_TRANSIT < DELIVERED`. -/
def rank? : ShipmentStatus → Option Nat
  | created => some 0
  | pickedUp => some 1
  | inTransit => some 2
  | delivered => some 3
  | _ => none

def isFinal (status : ShipmentStatus) : Bool := status = delivered || status = cancelled

/-- `later` is not behind the status: a final status stays, and the lifecycle is not walked
backwards. -/
def mayBecome (status later : ShipmentStatus) : Bool :=
  if status.isFinal then later = status
  else match status.rank?, later.rank? with
    | some before, some after => before ≤ after
    | _, _ => true

theorem mayBecome_self (status : ShipmentStatus) : status.mayBecome status = true := by
  cases status <;> rfl

theorem mayBecome_cancelled {status now : ShipmentStatus} (h : status.mayBecome now = true)
    (notDelivered : now ≠ .delivered) :
    status.mayBecome .cancelled = true := by
  cases status with
  | delivered => exact absurd (by simpa [mayBecome, isFinal] using h) notDelivered
  | _ => rfl

end ShipmentStatus

def Label.trackOrCancel : Label → Bool
  | start (.trackOrder _) => true
  | start (.cancelOrder _ _) => true
  | settle _ _ => true
  | tick _ => true
  | _ => false

def Task.tracked? : Task → Option String
  | trackOrder (.trackShipment order _ _) => some order.orderId
  | _ => none

/-- A report about `x` is not behind this status. -/
def State.reportsFollow (x : String) (status : ShipmentStatus) (s : State) : Label → Bool
  | .settle i (.tracked reply) =>
    s.tasks[i]?.bind Task.tracked? ≠ some x || status.mayBecome reply.status
  | _ => true

def Task.KeepsUp (x : String) (status : ShipmentStatus) : Task → Prop
  | trackOrder (.updateStatus order reply) =>
    order.orderId = x → status.mayBecome reply.status = true
  | cancelOrder (.cancelShipment order _ _) =>
    order.orderId = x → status.mayBecome .cancelled = true
  | cancelOrder (.updateCancelled order _ _) =>
    order.orderId = x → status.mayBecome .cancelled = true
  | trackOrder _ => True
  | cancelOrder _ => True
  | task => task.settled = true

def World.KeepsUp (w : World) (x : String) (status : ShipmentStatus) : Prop :=
  ∃ row, w.findOne x = some row ∧ status.mayBecome row.status = true

structure State.KeepsUp (x : String) (status : ShipmentStatus) (s : State) : Prop where
  row : s.world.KeepsUp x status
  tasks : ∀ task ∈ s.tasks, task.KeepsUp x status

section
variable {env : Env} {w w' : World} {x : String} {status : ShipmentStatus}

theorem World.KeepsUp.updateOrder {loaded : Order} {patch : OrderPatch} {next : ShipmentStatus}
    (h : w.KeepsUp x status) (named : patch.status = some next)
    (follows : loaded.orderId = x → status.mayBecome next = true) :
    (w.updateOrder env loaded patch).KeepsUp x status := by
  obtain ⟨row, stored, notBehind⟩ := h
  by_cases own : loaded.orderId = x
  · refine ⟨row.write env.updateMode w.now loaded patch, ?_, ?_⟩
    · rw [w.findOne_updateOrder_own x own, stored]
      rfl
    · simp only [Order.write, named]
      rcases env.updateMode.column_some loaded.status next row.status with new | ⟨-, old⟩
      · rw [new]; exact follows own
      · rw [old]; exact notBehind
  · exact ⟨row, (w.findOne_updateOrder_other x own).trans stored, notBehind⟩

theorem TrackingService.nextEvent_keepsUp (order : Order) (reply : NormalizedTrackingResponse)
    (history : List TrackingEventItem) :
    (Task.trackOrder (nextEvent order reply history)).KeepsUp x status := by
  cases history <;> trivial

theorem TrackingService.Moves.keepsUp {call call' : TrackOrder} {a : Answer}
    (moved : Moves env w call a w' call') (row : w.KeepsUp x status)
    (known : (Task.trackOrder call).KeepsUp x status)
    (reports : ∀ reply, a = .tracked reply → (Task.trackOrder call).tracked? = some x →
      status.mayBecome reply.status = true) :
    w'.KeepsUp x status ∧ (Task.trackOrder call').KeepsUp x status := by
  cases moved with
  | @tracked order awbNumber adapter reply =>
    refine ⟨row, ?_⟩
    unfold updateOrderStatusIfChanged
    split
    · exact fun own => reports reply rfl (congrArg some own)
    · exact nextEvent_keepsUp order reply reply.trackingHistory
  | statusUpdated => exact ⟨row.updateOrder rfl known, nextEvent_keepsUp _ _ _⟩
  | eventFound => exact ⟨row, nextEvent_keepsUp _ _ _⟩
  | eventAdded => exact ⟨row, nextEvent_keepsUp _ _ _⟩
  | _ => exact ⟨row, trivial⟩

theorem CancellationService.Moves.keepsUp {call call' : CancelOrder} {a : Answer}
    (moved : Moves env w call a w' call') (row : w.KeepsUp x status)
    (known : (Task.cancelOrder call).KeepsUp x status) :
    w'.KeepsUp x status ∧ (Task.cancelOrder call').KeepsUp x status := by
  cases moved with
  | @read orderId reason stored adapter found notCancelled notDelivered =>
    refine ⟨row, fun own => ?_⟩
    have same := World.orderId_of_findOne w found
    obtain ⟨other, found', notBehind⟩ := row
    rw [← own, same, found] at found'
    cases found'
    exact ShipmentStatus.mayBecome_cancelled notBehind notDelivered
  | agreed => exact ⟨row, known⟩
  | committed => exact ⟨row.updateOrder rfl known, trivial⟩
  | _ => exact ⟨row, trivial⟩

theorem Task.KeepsUp.of_settled {task : Task} (h : task.settled = true) :
    task.KeepsUp x status := by
  cases task with
  | trackOrder call => cases call <;> trivial
  | cancelOrder call => cases call <;> trivial
  | _ => exact h

theorem Task.Moves.keepsUp {task task' : Task} {a : Answer} (moved : Moves env w task a w' task')
    (row : w.KeepsUp x status) (known : task.KeepsUp x status)
    (reports : ∀ reply, a = .tracked reply → task.tracked? = some x →
      status.mayBecome reply.status = true) :
    w'.KeepsUp x status ∧ task'.KeepsUp x status := by
  have live := moved.unsettled
  cases moved with
  | trackOrder moved => exact moved.keepsUp row known reports
  | cancelOrder moved => exact moved.keepsUp row known
  | createOrder => exact absurd (live.symm.trans known) Bool.false_ne_true
  | bulkItem => exact absurd (live.symm.trans known) Bool.false_ne_true
  | createBulkOrders => exact absurd (live.symm.trans known) Bool.false_ne_true
  | reconcile => exact absurd (live.symm.trans known) Bool.false_ne_true

end

section
variable {env : Env} {s t : State} {l : Label} {x : String} {status : ShipmentStatus}

theorem State.KeepsUp.next (h : s.KeepsUp x status) (allowed : l.trackOrCancel = true)
    (follow : s.reportsFollow x status l = true) (moved : (platform env).next s l = some t) :
    t.KeepsUp x status := by
  cases State.Moves.of_next moved with
  | started request =>
    refine ⟨h.row, fun task mem => ?_⟩
    rcases List.mem_append.mp mem with earlier | new
    · exact h.tasks task earlier
    · rw [List.mem_singleton.mp new]
      cases request <;> trivial
  | @settled i a task w' task' awaiting step =>
    have known := h.tasks task (List.mem_of_getElem? awaiting)
    obtain ⟨row, next⟩ := step.keepsUp h.row known fun reply answer tracked => by
      subst answer
      simpa [reportsFollow, awaiting, tracked] using follow
    refine ⟨row, fun other mem => ?_⟩
    rcases List.mem_or_eq_of_mem_set mem with earlier | rfl
    · exact h.tasks other earlier
    · exact next
  | ticked => exact ⟨h.row, h.tasks⟩
  | itemStarted => exact Bool.noConfusion allowed
  | collected => exact Bool.noConfusion allowed
  | died => exact Bool.noConfusion allowed

/-- From any moment at which no call is in flight, tracking and cancelling an order never take
its status back along the lifecycle or out of `DELIVERED` or `CANCELLED`, as long as the
courier reports no status that is behind the one stored at that moment. -/
theorem lifecycle_monotone {row : Order} (idle : s.idle = true)
    (stored : s.world.findOne x = some row)
    (later : (platform env).Reaches
      (fun r l => l.trackOrCancel = true ∧ r.reportsFollow x row.status l = true) s t) :
    ∃ row', t.world.findOne x = some row' ∧ row.status.mayBecome row'.status = true := by
  have start : s.KeepsUp x row.status :=
    ⟨⟨row, stored, row.status.mayBecome_self⟩, fun task mem =>
      .of_settled (List.all_eq_true.mp idle task mem)⟩
  have kept : t.KeepsUp x row.status :=
    later.invariant (State.KeepsUp x row.status) start fun _ _ _ inv guard moved =>
      inv.next guard.1 guard.2 moved
  exact kept.row

end

def bookedOrder : World :=
  let orderData := parcel "A-1" "mock"
  (World.empty.bulkCreate ([orderData].map (BulkOrderService.batchRecord 0))).updateOrder
    (defaultEnv .postgres .named) (OrderService.pendingOrder orderData 0)
    (OrderService.createdPatch (bookingReply orderData "MCK1"))

def trackedThenCancelled (status : ShipmentStatus) : List Label :=
  [.start (.trackOrder "A-1"), .settle 0 .ok,
    .settle 0 (.tracked (trackingReply "A-1" "MCK1" status)), .settle 0 .ok,
    .start (.cancelOrder "A-1" none), .settle 1 .ok, .settle 1 (.cancelled (cancelReply "A-1")),
    .settle 1 .ok, .settle 1 .ok]

theorem lifecycle_monotone_trackedThenCancelled :
    ∃ (t : State) (row row' : Order), bookedOrder.findOne "A-1" = some row ∧
      row.status = .created ∧ t.world.findOne "A-1" = some row' ∧
      row.status.mayBecome row'.status = true := by
  obtain ⟨row, stored, created⟩ : ∃ row, bookedOrder.findOne "A-1" = some row ∧
      row.status = .created := ⟨_, rfl, rfl⟩
  obtain ⟨t, later, -⟩ := Machine.Reaches.of_run_any production
    (fun r l => l.trackOrCancel = true ∧ r.reportsFollow "A-1" .created l = true)
    (State.init bookedOrder) (trackedThenCancelled .inTransit) (fun _ => true) (by decide)
  rw [← created] at later
  obtain ⟨row', found, notBehind⟩ := lifecycle_monotone rfl stored later
  exact ⟨t, row, row', stored, created, found, notBehind⟩

def cancelledThenTracked : List Label :=
  [.start (.cancelOrder "A-1" none), .settle 0 .ok, .settle 0 (.cancelled (cancelReply "A-1")),
    .settle 0 .ok, .settle 0 .ok, .start (.trackOrder "A-1"), .settle 1 .ok,
    .settle 1 (.tracked (trackingReply "A-1" "MCK1" .inTransit)), .settle 1 .ok]

theorem cancelled_then_in_transit :
    ¬ ∀ env s t x row,
      (platform env).Reaches (fun s l => s.sequentialFaultless l ∧ l.trackOrCancel = true)
        (State.init bookedOrder) s →
      s.idle = true → s.world.findOne x = some row →
      (platform env).Reaches (fun s l => s.sequentialFaultless l ∧ l.trackOrCancel = true) s t →
      ∃ row', t.world.findOne x = some row' ∧ row.status.mayBecome row'.status = true := by
  intro claim
  obtain ⟨s, first, test⟩ := Machine.Reaches.of_run_any production
    (fun s l => s.sequentialFaultless l ∧ l.trackOrCancel = true) (State.init bookedOrder)
    (cancelledThenTracked.take 5)
    (fun s => s.idle && (s.world.findOne "A-1").any (·.status = .cancelled) &&
      (production.run (fun s l => s.sequentialFaultless l ∧ l.trackOrCancel = true) s
        (cancelledThenTracked.drop 5)).any
          fun t => (t.world.findOne "A-1").any (·.status = .inTransit)) (by decide)
  simp only [Bool.and_eq_true] at test
  obtain ⟨⟨idle, cancelled⟩, continues⟩ := test
  obtain ⟨row, stored, was⟩ := (Option.any_eq_true _ _).mp cancelled
  obtain ⟨t, later, tracked⟩ := Machine.Reaches.of_run_any _ _ s _ _ continues
  obtain ⟨row', found, notBehind⟩ := claim _ s t "A-1" row first idle stored later
  rw [found, Option.any_some, decide_eq_true_eq] at tracked
  rw [decide_eq_true_eq] at was
  rw [was, tracked] at notBehind
  contradiction

end CourierPlatform
