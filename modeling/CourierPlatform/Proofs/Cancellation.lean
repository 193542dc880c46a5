import CourierPlatform.Proofs.Turns

/-! When a cancellation is final. `cancelOrder` writes `CANCELLED` over whatever the row is;
the dispatch paths respect it where they read the row, but not where they write it. -/
namespace CourierPlatform
open Library

def State.unheld (s : State) (x : String) : Bool :=
  s.tasks.all fun task => (task.hold? x).isNone

/-- A cancellation is committed only when no call in flight will still write the row. -/
def State.quietCommit (s : State) : Label → Bool
  | .settle i .ok =>
    match s.tasks[i]? with
    | some (.cancelOrder (.updateCancelled order _ _)) => s.unheld order.orderId
    | _ => true
  | _ => true

structure State.Cancelled (x : String) (s : State) : Prop where
  row : ∃ row, s.world.findOne x = some row ∧ row.status = .cancelled
  unheld : ∀ task ∈ s.tasks, task.hold? x = none

section
variable {env : Env} {s t : State} {l : Label} {x : String}

theorem State.hold?_of_unheld (h : s.unheld x = true) :
    ∀ task ∈ s.tasks, task.hold? x = none := fun task mem =>
  Option.isNone_iff_eq_none.mp (List.all_eq_true.mp h task mem)

theorem Turn.cancelled_stays {now : Int} {task : Task} {a : Answer} {row : Order}
    {after : Option (Stage × Order)} {row' : Option Order} {calls}
    (turn : Turn env now x task a none (some row) after row' calls)
    (cancelled : row.status = .cancelled) (untracked : task.tracks = false) :
    after = none ∧ (∃ stored, row' = some stored ∧ stored.status = .cancelled) ∧ calls = [] := by
  cases turn with
  | idle => exact ⟨rfl, ⟨row, rfl, cancelled⟩, rfl⟩
  | read reads answer isOpen => rw [cancelled] at isOpen; contradiction
  | selected answer listed pending => rw [cancelled] at pending; contradiction
  | tracked answer tracks => rw [tracks] at untracked; contradiction
  | cancelled answer cancels own =>
    refine ⟨rfl, ⟨_, rfl, ?_⟩, rfl⟩
    simp only [Order.write, CancellationService.cancelledPatch]
    rcases env.updateMode.column_some _ ShipmentStatus.cancelled row.status with new | ⟨-, old⟩
    · exact new
    · rw [old]; exact cancelled

theorem State.Cancelled.next (h : s.Cancelled x) (wellFormed : s.WellFormed)
    (untracked : ∀ task ∈ s.tasks, task.tracks = false)
    (moved : (platform env).next s l = some t) :
    t.Cancelled x ∧ t.world.dispatched x = s.world.dispatched x := by
  obtain ⟨row, stored, cancelled⟩ := h.row
  obtain ⟨unheld, row', same⟩ := (State.Moves.of_next moved).keeps_order (· = none)
    (fun row => ∃ stored, row = some stored ∧ stored.status = .cancelled) wellFormed rfl h.unheld
    h.row fun i a task after row' calls _ awaiting _ turn => by
      have mem := List.mem_of_getElem? awaiting
      rw [h.unheld task mem, stored] at turn
      exact turn.cancelled_stays cancelled (untracked task mem)
  exact ⟨⟨row', unheld⟩, same⟩

theorem State.row_exists_next {row : Order} (wellFormed : s.WellFormed)
    (stored : s.world.findOne x = some row) (moved : (platform env).next s l = some t) :
    ∃ row', t.world.findOne x = some row' := by
  cases State.Moves.of_next moved with
  | @settled i a task w' task' awaiting step =>
    obtain ⟨calls, -, turn⟩ :=
      step.turnsOn (wellFormed.tasks task (List.mem_of_getElem? awaiting)) x
    rw [stored] at turn
    obtain ⟨row', same, -⟩ := turn.keepsPartner
    exact ⟨row', same⟩
  | _ => exact ⟨row, stored⟩

def Task.cancels? : Task → Option String
  | cancelOrder (.cancelShipment order _ _) => some order.orderId
  | cancelOrder (.updateCancelled order _ _) => some order.orderId
  | _ => none

def Task.committed? : Task → Option String
  | cancelOrder (.createEvent order _ _) => some order.orderId
  | _ => none

structure State.CancelsFinally (s : State) : Prop where
  wellFormed : s.WellFormed
  untracked : ∀ task ∈ s.tasks, task.tracks = false
  stored : ∀ task ∈ s.tasks, ∀ x, task.cancels? = some x → ∃ row, s.world.findOne x = some row
  final : ∀ task ∈ s.tasks, ∀ x, task.committed? = some x → s.Cancelled x

theorem Task.Quiet.cancels? {task : Task} (h : task.Quiet) : task.cancels? = none := by
  cases task with
  | cancelOrder call => cases call <;> first | rfl | exact h.elim
  | _ => rfl

theorem Task.Quiet.committed? {task : Task} (h : task.Quiet) : task.committed? = none := by
  cases task with
  | cancelOrder call => cases call <;> first | rfl | exact h.elim
  | _ => rfl

theorem Task.Moves.cancels? {w w' : World} {task task' : Task} {a : Answer}
    (moved : Moves env w task a w' task') (cancels : task'.cancels? = some x) :
    (∃ row, w.findOne x = some row) ∨ task.cancels? = some x := by
  cases moved with
  | cancelOrder moved =>
    cases moved with
    | @read orderId reason row adapter found =>
      have own := World.orderId_of_findOne w found
      cases cancels
      exact .inl ⟨row, own ▸ found⟩
    | agreed => exact .inr cancels
    | _ => contradiction
  | _ => contradiction

theorem Task.Moves.committed? {w w' : World} {task task' : Task} {a : Answer}
    (moved : Moves env w task a w' task') (committed : task'.committed? = some x) :
    ∃ order reply reason, task = .cancelOrder (.updateCancelled order reply reason) ∧
      order.orderId = x ∧ a = .ok ∧
      w' = w.updateOrder env order CancellationService.cancelledPatch := by
  cases moved with
  | cancelOrder moved =>
    cases moved with
    | @committed order reply reason =>
      exact ⟨order, reply, reason, rfl, Option.some.inj committed, rfl, rfl⟩
    | _ => contradiction
  | _ => contradiction

theorem State.CancelsFinally.next (h : s.CancelsFinally) (untracked : l.untracked = true)
    (quiet : s.quietCommit l = true) (moved : (platform env).next s l = some t) :
    t.CancelsFinally := by
  have moves := State.Moves.of_next moved
  refine ⟨h.wellFormed.next moved, untracked_next h.untracked untracked moves, ?_, ?_⟩
  · refine moves.forall_tasks_of_quiet (fun j task found _ x cancels => ?_)
      (fun task quiet x cancels => by rw [quiet.cancels?] at cancels; contradiction)
      fun i a task task' _ awaiting step x cancels => ?_
    · obtain ⟨row, stored⟩ := h.stored task (List.mem_of_getElem? found) x cancels
      exact row_exists_next h.wellFormed stored moved
    · rcases step.cancels? cancels with ⟨row, stored⟩ | before
      · exact row_exists_next h.wellFormed stored moved
      · obtain ⟨row, stored⟩ := h.stored task (List.mem_of_getElem? awaiting) x before
        exact row_exists_next h.wellFormed stored moved
  · refine moves.forall_tasks_of_quiet (fun j task found _ x committed => ?_)
      (fun task quiet x committed => by rw [quiet.committed?] at committed; contradiction)
      fun i a task task' settles awaiting step x committed => ?_
    · have cancelled := h.final task (List.mem_of_getElem? found) x committed
      exact (cancelled.next h.wellFormed h.untracked moved).1
    · obtain ⟨order, reply, reason, rfl, own, rfl, world⟩ := step.committed? committed
      subst settles
      have mem := List.mem_of_getElem? awaiting
      have free : s.unheld x = true := by
        rw [← own]
        simpa only [quietCommit, awaiting] using quiet
      obtain ⟨row, stored⟩ := h.stored _ mem x (congrArg some own)
      have notCancelled : order.status ≠ .cancelled := (h.wellFormed.tasks _ mem).1
      let written := row.write env.updateMode s.world.now order CancellationService.cancelledPatch
      refine ⟨⟨written, ?_, ?_⟩, ?_⟩
      · rw [world, World.findOne_updateOrder_own _ _ own, stored]
        rfl
      · exact env.updateMode.column_of_ne notCancelled.symm _
      · refine moves.forall_tasks_of_quiet
          (fun j task found _ => hold?_of_unheld free task (List.mem_of_getElem? found))
          (fun task quiet => quiet.hold? x) fun j b moving moving' same awaiting' step' => ?_
        cases same
        rw [awaiting] at awaiting'
        cases awaiting'
        cases step'
        rfl

def State.cancelsGuarded (s : State) (l : Label) : Prop :=
  l.untracked = true ∧ s.quietCommit l = true

instance (s : State) (l : Label) : Decidable (s.cancelsGuarded l) :=
  inferInstanceAs (Decidable (_ ∧ _))

theorem State.CancelsFinally.init {w : World} (keyed : w.WellKeyed) :
    (State.init w).CancelsFinally where
  wellFormed := .init keyed
  untracked _ mem := absurd mem List.not_mem_nil
  stored _ mem := absurd mem List.not_mem_nil
  final _ mem := absurd mem List.not_mem_nil

/-- From the moment `cancelOrder` commits `CANCELLED`, the order stays cancelled and is not
booked again, if no other call that may still write its row is in flight at that moment. -/
theorem cancellation_final {w : World} {task : Task} (keyed : w.WellKeyed)
    (first : (platform env).Reaches State.cancelsGuarded (State.init w) s)
    (mem : task ∈ s.tasks) (committed : task.committed? = some x)
    (later : (platform env).Reaches State.cancelsGuarded s t) :
    (∃ row, t.world.findOne x = some row ∧ row.status = .cancelled) ∧
      t.world.bookings x = s.world.bookings x := by
  have known : s.CancelsFinally :=
    first.invariant State.CancelsFinally (.init keyed) fun _ _ _ inv guard moved =>
      inv.next guard.1 guard.2 moved
  have kept : t.CancelsFinally ∧ t.Cancelled x ∧
      t.world.dispatched x = s.world.dispatched x :=
    later.invariant (fun r => r.CancelsFinally ∧ r.Cancelled x ∧
        r.world.dispatched x = s.world.dispatched x)
      ⟨known, known.final task mem x committed, rfl⟩ fun _ _ _ inv guard moved => by
        obtain ⟨stays, same⟩ := inv.2.1.next inv.1.wellFormed inv.1.untracked moved
        exact ⟨inv.1.next guard.1 guard.2 moved, stays, same.trans inv.2.2⟩
  exact ⟨kept.2.1.row, by rw [World.bookings, kept.2.2, World.bookings]⟩

end

def cancelledSubmission : List Label :=
  let orderData := parcel "A-1" "mock"
  [.start (.createOrder orderData), .settle 0 .ok, .settle 0 .ok,
    .settle 0 (.refused (.error "timeout")), .settle 0 .ok, .start (.cancelOrder "A-1" none),
    .settle 1 .ok, .settle 1 (.cancelled (cancelReply "A-1")), .settle 1 .ok, .settle 1 .ok,
    .start (.createOrder orderData), .settle 2 .ok]

theorem cancellation_final_cancelledSubmission :
    ∃ s t : State, s.tasks[1]?.bind Task.committed? = some "A-1" ∧
      (∃ row, t.world.findOne "A-1" = some row ∧ row.status = .cancelled) ∧
      t.world.bookings "A-1" = s.world.bookings "A-1" := by
  obtain ⟨s, first, test⟩ := Machine.Reaches.of_run_any production State.cancelsGuarded
    (State.init .empty) (cancelledSubmission.take 9)
    (fun s => s.tasks[1]?.bind Task.committed? = some "A-1" &&
      (production.run State.cancelsGuarded s (cancelledSubmission.drop 9)).isSome) (by decide)
  simp only [Bool.and_eq_true, decide_eq_true_eq, Option.isSome_iff_exists] at test
  obtain ⟨found, t, ran⟩ := test
  obtain ⟨task, awaiting, committed⟩ := Option.bind_eq_some_iff.mp found
  exact ⟨s, t, found, cancellation_final .empty first (List.mem_of_getElem? awaiting) committed
    (.of_run (cancelledSubmission.drop 9) ran)⟩

def cancelledDispatch : List Label :=
  let orderData := parcel "A-1" "mock"
  [.start (.createOrder orderData), .settle 0 .ok, .settle 0 .ok,
    .start (.cancelOrder "A-1" none), .settle 1 .ok, .settle 1 (.cancelled (cancelReply "A-1")),
    .settle 1 .ok, .settle 1 .ok, .settle 0 (.booked (bookingReply orderData "MCK1")),
    .settle 0 .ok]

theorem cancellation_overwritten :
    ¬ ∀ env w s r t i task x, World.WellKeyed w →
      (platform env).Reaches (fun s l => s.cancelling l = true) (State.init w) s →
      s.tasks[i]? = some task → task.committed? = some x →
      (platform env).next s (.settle i .ok) = some r →
      (platform env).Reaches (fun s l => s.cancelling l = true) r t →
      (∃ row, t.world.findOne x = some row ∧ row.status = .cancelled) ∧
        t.world.bookings x = r.world.bookings x := by
  intro claim
  obtain ⟨s, first, test⟩ := Machine.Reaches.of_run_any production
    (fun s l => s.cancelling l = true) (State.init .empty) (cancelledDispatch.take 7)
    (fun s => s.tasks[1]?.bind Task.committed? = some "A-1" &&
      (production.next s (.settle 1 .ok)).any fun r =>
        (production.run (fun s l => s.cancelling l = true) r (cancelledDispatch.drop 8)).any
          fun t => (t.world.findOne "A-1").any (·.status = .created)) (by decide)
  simp only [Bool.and_eq_true, decide_eq_true_eq] at test
  obtain ⟨found, continues⟩ := test
  obtain ⟨task, awaiting, committed⟩ := Option.bind_eq_some_iff.mp found
  obtain ⟨r, returned, rest⟩ := (Option.any_eq_true _ _).mp continues
  obtain ⟨t, later, created⟩ := Machine.Reaches.of_run_any _ _ r _ _ rest
  obtain ⟨⟨row, stored, cancelled⟩, -⟩ :=
    claim _ _ s r t 1 task "A-1" .empty first awaiting committed returned later
  rw [stored, Option.any_some, cancelled] at created
  contradiction

end CourierPlatform
