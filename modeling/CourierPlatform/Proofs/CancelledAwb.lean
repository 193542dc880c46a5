import CourierPlatform.Proofs.Provenance

/-! Which AWB `cancelOrder` sends to a courier. An AWB in the table was answered to a booking of the
order, whatever has happened since; but `cancelOrder` does not ask for one. -/
namespace CourierPlatform
open Library

/-- When a `cancelOrder` call reads a row that it goes on to submit, the row has an AWB. -/
def State.cancelsBooked (env : Env) (s : State) : Label → Bool
  | .settle i .ok =>
    match s.tasks[i]? with
    | some (.cancelOrder (.fetchOrder orderId _)) =>
      (s.world.findOne orderId).all fun row =>
        row.status = .cancelled || row.status = .delivered ||
          !env.registry.has env.js row.courierPartner || (orNull row.awbNumber).isSome
    | _ => true
  | _ => true

def World.BookedUnder (w : World) (orderId awbNumber : String) : Prop :=
  awbNumber ≠ "" ∧ ∃ reply, w.Answered orderId reply ∧ reply.awbNumber = awbNumber

section
variable {env : Env} {s t : State} {l : Label} {w w' : World} {task task' : Task} {a : Answer}
  {orderId awbNumber : String}

theorem Task.Moves.courierCalls (moved : Moves env w task a w' task') :
    w.courierCalls <+: w'.courierCalls := by
  have ofOrder {call call' : CreateOrder} (moved : OrderService.Moves env w call a w' call') :
      w.courierCalls <+: w'.courierCalls := by
    cases moved with
    | inserted inserted => exact World.createOrder?_courierCalls w inserted ▸ List.prefix_rfl
    | booked => exact List.prefix_append ..
    | refused => exact List.prefix_append ..
    | _ => exact List.prefix_rfl
  cases moved with
  | createOrder moved => exact ofOrder moved
  | bulkItem moved => exact ofOrder moved
  | createBulkOrders moved => cases moved <;> exact List.prefix_rfl
  | trackOrder moved => cases moved <;> first | exact List.prefix_rfl | exact List.prefix_append ..
  | cancelOrder moved => cases moved <;> first | exact List.prefix_rfl | exact List.prefix_append ..
  | reconcile moved => cases moved <;> first | exact List.prefix_rfl | exact List.prefix_append ..

theorem State.Moves.courierCalls (moves : Moves env s l t) :
    s.world.courierCalls <+: t.world.courierCalls := by
  cases moves with
  | settled awaiting step => exact step.courierCalls
  | _ => exact List.prefix_rfl

theorem World.BookedUnder.mono (h : w.BookedUnder orderId awbNumber)
    (grown : w.courierCalls <+: w'.courierCalls) : w'.BookedUnder orderId awbNumber := by
  obtain ⟨nonempty, reply, answered, same⟩ := h
  refine ⟨nonempty, reply, ?_, same⟩
  obtain ⟨calls, grown⟩ := grown
  apply answered.record
  rw [World.dispatched, ← grown, List.filterMap_append, World.dispatched]

theorem Task.Moves.cancellations (moved : Moves env w task a w' task') {adapter : Adapter}
    {reason : Option String} {result : Except Thrown NormalizedCancelResponse}
    (mem : .cancelShipment adapter awbNumber orderId reason result ∈ w'.courierCalls) :
    .cancelShipment adapter awbNumber orderId reason result ∈ w.courierCalls ∨
      ∃ order, task = .cancelOrder (.cancelShipment order adapter reason) ∧
        orDefault order.awbNumber "" = awbNumber ∧ order.orderId = orderId := by
  have ofOrder {call call' : CreateOrder} (moved : OrderService.Moves env w call a w' call') :
      .cancelShipment adapter awbNumber orderId reason result ∈ w.courierCalls := by
    cases moved with
    | booked => exact (w.mem_record _ mem).resolve_right nofun
    | refused => exact (w.mem_record _ mem).resolve_right nofun
    | inserted inserted => exact w.createOrder?_courierCalls inserted ▸ mem
    | _ => exact mem
  cases moved with
  | createOrder moved => exact .inl (ofOrder moved)
  | bulkItem moved => exact .inl (ofOrder moved)
  | createBulkOrders moved => cases moved <;> exact .inl mem
  | trackOrder moved =>
    cases moved with
    | tracked => exact .inl ((w.mem_record _ mem).resolve_right nofun)
    | refused => exact .inl ((w.mem_record _ mem).resolve_right nofun)
    | _ => exact .inl mem
  | cancelOrder moved =>
    cases moved with
    | agreed =>
      apply (w.mem_record _ mem).imp_right
      intro same
      cases same
      exact ⟨_, rfl, rfl, rfl⟩
    | refused =>
      apply (w.mem_record _ mem).imp_right
      intro same
      cases same
      exact ⟨_, rfl, rfl, rfl⟩
    | _ => exact .inl mem
  | reconcile moved =>
    cases moved with
    | booked => exact .inl ((w.mem_record _ mem).resolve_right nofun)
    | refused => exact .inl ((w.mem_record _ mem).resolve_right nofun)
    | _ => exact .inl mem

def Task.CancelsBooked (w : World) : Task → Prop
  | cancelOrder (.cancelShipment order _ _) =>
    w.BookedUnder order.orderId (orDefault order.awbNumber "")
  | _ => True

theorem Task.CancelsBooked.mono (h : task.CancelsBooked w)
    (grown : w.courierCalls <+: w'.courierCalls) : task.CancelsBooked w' := by
  cases task with
  | cancelOrder call =>
    cases call with
    | cancelShipment order adapter reason => exact World.BookedUnder.mono h grown
    | _ => trivial
  | _ => trivial

theorem AwbAnswered.bookedUnder {row : Order} (answered : AwbAnswered w orderId (some row))
    (present : (orNull row.awbNumber).isSome = true) :
    w.BookedUnder orderId (orDefault row.awbNumber "") := by
  obtain ⟨awbNumber, found⟩ := Option.isSome_iff_exists.mp present
  obtain ⟨stored, nonempty⟩ := TrackingService.orNull_eq_some found
  obtain ⟨reply, booked, same⟩ := answered row awbNumber rfl stored
  have sent : orDefault row.awbNumber "" = awbNumber := by
    rw [stored]
    simp [orDefault, nonempty]
  rw [sent]
  exact ⟨nonempty, reply, booked, same⟩

theorem State.awb_of_cancelsBooked {i : Nat} {reason : Option String} {row : Order} {adapter : Adapter}
    (condition : s.cancelsBooked env (.settle i .ok) = true)
    (awaiting : s.tasks[i]? = some (.cancelOrder (.fetchOrder orderId reason)))
    (found : s.world.findOne orderId = some row) (notCancelled : row.status ≠ .cancelled)
    (notDelivered : row.status ≠ .delivered)
    (registered : env.registry.get env.js row.courierPartner = .ok adapter) :
    (orNull row.awbNumber).isSome = true := by
  have has : env.registry.has env.js row.courierPartner = true := by
    rw [CourierRegistry.has_eq_isOk, registered]
    rfl
  simpa [cancelsBooked, awaiting, found, notCancelled, notDelivered, has] using condition

theorem Task.Moves.cancelsBooked (moved : Moves env w task a w' task')
    (rows : ∀ x, AwbAnswered w x (w.findOne x))
    (read : ∀ orderId reason row adapter, task = .cancelOrder (.fetchOrder orderId reason) →
      a = .ok → w.findOne orderId = some row → row.status ≠ .cancelled → row.status ≠ .delivered →
      env.registry.get env.js row.courierPartner = .ok adapter → (orNull row.awbNumber).isSome = true) :
    task'.CancelsBooked w' := by
  cases moved with
  | cancelOrder moved =>
    cases moved with
    | @read orderId _ _ _ found notCancelled notDelivered registered =>
      have present := read _ _ _ _ rfl rfl found notCancelled notDelivered registered
      have answered := rows orderId
      rw [found] at answered
      change w.BookedUnder _ _
      rw [World.orderId_of_findOne w found]
      exact answered.bookedUnder present
    | _ => trivial
  | _ => trivial

structure State.CancelsKept (s : State) : Prop where
  sourced : s.Sourced
  tasks : ∀ task ∈ s.tasks, task.CancelsBooked s.world
  calls : ∀ adapter awbNumber orderId reason result,
    .cancelShipment adapter awbNumber orderId reason result ∈ s.world.courierCalls →
      s.world.BookedUnder orderId awbNumber

theorem State.CancelsKept.init : (State.init .empty).CancelsKept where
  sourced := .init
  tasks _ mem := absurd mem List.not_mem_nil
  calls _ _ _ _ _ mem := absurd mem List.not_mem_nil

theorem State.CancelsKept.next (h : s.CancelsKept) (condition : s.cancelsBooked env l = true)
    (moved : (platform env).next s l = some t) : t.CancelsKept := by
  have moves := State.Moves.of_next moved
  have grown := moves.courierCalls
  refine ⟨h.sourced.next moved, ?_, ?_⟩
  · apply moves.forall_tasks (J := Task.CancelsBooked t.world)
    · intro j task found _
      exact (h.tasks task (List.mem_of_getElem? found)).mono grown
    · intro request _
      cases request <;> trivial
    · intro task internal
      cases task <;> trivial
    · intro i a task task' label awaiting step
      apply step.cancelsBooked h.sourced.rows
      rintro orderId reason row adapter rfl rfl found notCancelled notDelivered registered
      subst label
      exact awb_of_cancelsBooked condition awaiting found notCancelled notDelivered registered
  · intro adapter awbNumber orderId reason result mem
    cases moves with
    | settled awaiting step =>
      rcases step.cancellations mem with earlier | ⟨order, rfl, rfl, rfl⟩
      · exact (h.calls adapter awbNumber orderId reason result earlier).mono grown
      · have known := h.tasks _ (List.mem_of_getElem? awaiting)
        exact World.BookedUnder.mono known grown
    | _ => exact h.calls adapter awbNumber orderId reason result mem

/-- Whatever else happens, and in whatever order, every cancellation that a courier receives carries an
AWB that a booking of the order was answered with, as long as the rows that are read for it have
one. -/
theorem cancellations_booked {adapter : Adapter} {reason : Option String}
    {result : Except Thrown NormalizedCancelResponse}
    (reach : (platform env).Reaches (fun s l => s.cancelsBooked env l = true) (State.init .empty) s)
    (mem : .cancelShipment adapter awbNumber orderId reason result ∈ s.world.courierCalls) :
    s.world.BookedUnder orderId awbNumber :=
  (reach.invariant State.CancelsKept .init fun _ _ _ inv condition moved =>
    inv.next condition moved).calls adapter awbNumber orderId reason result mem

/-- The condition leaves out no more than the defect: a call that reads a row without an AWB submits a
cancellation with the empty one, and the courier's answer to it is recorded. -/
theorem cancels_without_awb {i : Nat} {reason : Option String} {row : Order} {adapter : Adapter}
    (awaiting : s.tasks[i]? = some (.cancelOrder (.fetchOrder orderId reason)))
    (found : s.world.findOne orderId = some row) (notCancelled : row.status ≠ .cancelled)
    (notDelivered : row.status ≠ .delivered)
    (registered : env.registry.get env.js row.courierPartner = .ok adapter)
    (missing : orNull row.awbNumber = none) (reply : NormalizedCancelResponse) :
    ∃ r t, (platform env).next s (.settle i .ok) = some r ∧
      (platform env).next r (.settle i (.cancelled reply)) = some t ∧
      .cancelShipment adapter "" orderId reason (.ok reply) ∈ t.world.courierCalls := by
  have sent : orDefault row.awbNumber "" = "" := by
    cases stored : row.awbNumber with
    | none => rfl
    | some awbNumber =>
      have empty : awbNumber = "" := by simpa [stored, orNull] using missing
      rw [empty]
      rfl
  have read : CancellationService.afterFetch env orderId reason (s.world.findOne orderId) =
      .cancelShipment row adapter reason := by
    simp [CancellationService.afterFetch, CancellationService.checkIfAlreadyCancelled,
      CancellationService.validateCancellableStatus, found, notCancelled, notDelivered, registered]
  have inside := (List.getElem?_eq_some_iff.mp awaiting).1
  let submitting := s.tasks.set i (.cancelOrder (.cancelShipment row adapter reason))
  refine ⟨⟨s.world, submitting⟩,
    ⟨s.world.record (.cancelShipment adapter "" orderId reason (.ok reply)),
      submitting.set i (.cancelOrder (.updateCancelled row reply reason))⟩, ?_, ?_, ?_⟩
  · simp [platform, State.next, awaiting, Task.step, CancellationService.step, read, submitting]
  · simp [platform, State.next, Task.step, CancellationService.step, inside, sent, submitting,
      World.orderId_of_findOne s.world found]
  · exact List.mem_append_right _ List.mem_cons_self

end

def CourierCall.cancelled? : CourierCall → Option (String × String)
  | cancelShipment _ awbNumber orderId _ _ => some (awbNumber, orderId)
  | _ => none

theorem CourierCall.of_any_cancelled? {calls : List CourierCall} {awbNumber orderId : String}
    (h : calls.any (fun call => call.cancelled? = some (awbNumber, orderId)) = true) :
    ∃ adapter reason result, .cancelShipment adapter awbNumber orderId reason result ∈ calls := by
  obtain ⟨call, mem, same⟩ := List.any_eq_true.mp h
  cases call with
  | cancelShipment adapter sent x reason result =>
    cases of_decide_eq_true same
    exact ⟨adapter, reason, result, mem⟩
  | _ => contradiction

theorem cancellations_booked_parcel : ∃ s : State,
    s.world.courierCalls.any (fun call => call.cancelled? = some ("MCK1", "A-1")) = true ∧
      s.world.BookedUnder "A-1" "MCK1" := by
  let orderData := parcel "A-1" "mock"
  obtain ⟨s, reach, test⟩ := Machine.Reaches.of_run_any production
    (fun s l => s.cancelsBooked (defaultEnv .postgres .named) l = true) (State.init .empty)
    [.start (.createOrder orderData), .settle 0 .ok, .settle 0 .ok,
      .settle 0 (.booked (bookingReply orderData "MCK1")), .settle 0 .ok,
      .start (.cancelOrder "A-1" none), .settle 1 .ok, .settle 1 (.cancelled (cancelReply "A-1"))]
    (fun s => s.world.courierCalls.any fun call => call.cancelled? = some ("MCK1", "A-1"))
    (by decide)
  obtain ⟨adapter, reason, result, mem⟩ := CourierCall.of_any_cancelled? test
  exact ⟨s, test, cancellations_booked reach mem⟩

/-- The courier refuses the parcel, and the `FAILED` row is cancelled without an AWB, one call after the
other. -/
theorem failed_dispatch_cancelled :
    ¬ ∀ env s adapter awbNumber orderId reason result,
      (platform env).Reaches (fun s l => s.sequential l = true) (State.init .empty) s →
      .cancelShipment adapter awbNumber orderId reason result ∈ s.world.courierCalls →
      s.world.BookedUnder orderId awbNumber := by
  intro claim
  obtain ⟨s, reach, test⟩ := Machine.Reaches.of_run_any production
    (fun s l => s.sequential l = true) (State.init .empty)
    [.start (.createOrder (parcel "A-1" "mock")), .settle 0 .ok, .settle 0 .ok,
      .settle 0 (.refused (.error "pincode not serviceable")), .settle 0 .ok,
      .start (.cancelOrder "A-1" none), .settle 1 .ok, .settle 1 (.cancelled (cancelReply "A-1"))]
    (fun s => s.world.courierCalls.any fun call => call.cancelled? = some ("", "A-1")) (by decide)
  obtain ⟨adapter, reason, result, mem⟩ := CourierCall.of_any_cancelled? test
  exact (claim _ s _ _ _ _ _ reach mem).1 rfl

end CourierPlatform
