import CourierPlatform.Proofs.Sequential
import CourierPlatform.Proofs.Turns

/-! When the worker keeps what it has recorded. The update to `CREATED` and the insertion
of the event share one `try`, so a failing insertion sends a booked order through the
`catch` branch. -/
namespace CourierPlatform
open Library

/-- A cycle in the `catch` branch for a row that it has already committed as `CREATED`. -/
def Task.revertsRecord : Task → Bool
  | reconcile (.updateCaught order _ _ _ _) => order.status = .created
  | _ => false

/-- Where the insertion of the event failed, the update of the `catch` branch fails too. -/
def State.keepsRecord (s : State) : Label → Bool
  | .settle i .ok => !s.tasks[i]?.any Task.revertsRecord
  | _ => true

def State.workerGuarded (s : State) (l : Label) : Prop :=
  s.workerOnly l = true ∧ s.keepsRecord l = true

instance (s : State) (l : Label) : Decidable (s.workerGuarded l) :=
  inferInstanceAs (Decidable (_ ∧ _))

def Recorded (held : Stage × Order) : Prop :=
  (held.1 = .recorded ∨ held.1 = .failing) ∧ held.2.status = .created

def NotCreated (row : Option Order) : Prop :=
  ∃ stored, row = some stored ∧ stored.status ≠ .created

section
variable {env : Env} {now : Int} {x : String} {task : Task} {a : Answer}
  {before after : Option (Stage × Order)} {row row' : Option Order}
  {calls : List (Except Thrown NormalizedCreateOrderResponse)}

theorem ShipmentStatus.ne_created {status : ShipmentStatus} (isOpen : status.isOpen = true) :
    status ≠ .created := by
  rintro rfl
  contradiction

theorem Turn.recorded_or_notCreated (turn : Turn env now x task a before row after row' calls)
    (known : ∀ held, before = some held → Recorded held ∨ NotCreated row) {held : Stage × Order}
    (holds : after = some held) : Recorded held ∨ NotCreated row' := by
  have notYet {stage : Stage} {loaded : Order} (h : before = some (stage, loaded))
      (stages : stage ≠ .recorded ∧ stage ≠ .failing) : NotCreated row := by
    rcases known _ h with recorded | notCreated
    · rcases recorded.1 with same | same
      · exact absurd same stages.1
      · exact absurd same stages.2
    · exact notCreated
  cases turn with
  | read reads answer isOpen => exact .inr ⟨_, rfl, ShipmentStatus.ne_created isOpen⟩
  | selected answer listed pending => exact .inr ⟨_, rfl, by rw [pending]; decide⟩
  | inserted own next => exact .inr ⟨_, rfl, by simp [OrderService.pendingOrder]⟩
  | waited => exact .inr (notYet rfl (by simp))
  | began => exact .inr (notYet rfl (by simp))
  | booked => exact .inr (notYet rfl (by simp))
  | refused => exact .inr (notYet rfl (by simp))
  | @prePersisted loaded _ _ orderData =>
    obtain ⟨stored, rfl, notCreated⟩ := notYet rfl (by simp)
    refine .inr ⟨_, rfl, ?_⟩
    simp only [Order.write, OrderService.pendingPatch]
    rcases env.updateMode.column_some loaded.status .pendingDispatch stored.status with
      new | ⟨-, old⟩
    · rw [new]; decide
    · rw [old]; exact notCreated
  | recorded =>
    cases holds
    exact .inl ⟨.inl rfl, by simp [Order.assign, Order.write, ReconciliationWorker.createdPatch]⟩
  | lost =>
    cases holds
    rcases known _ rfl with recorded | notCreated
    · exact .inl ⟨.inr rfl, recorded.2⟩
    · exact .inr notCreated
  | _ => contradiction

theorem Turn.created_stays {stored : Order}
    (turn : Turn env now x task a before (some stored) after row' calls)
    (created : stored.status = .created) (cycle : ∃ cycle, task = .reconcile cycle)
    (known : ∀ held, before = some held → Recorded held)
    (kept : ∀ loaded, a = .ok → before = some (.failing, loaded) → loaded.status ≠ .created) :
    (∀ held, after = some held → Recorded held) ∧
      (∃ stored', row' = some stored' ∧ stored'.status = .created) ∧ calls = [] := by
  have impossible {stage : Stage} {loaded : Order} (h : before = some (stage, loaded))
      (stages : stage ≠ .recorded ∧ stage ≠ .failing) : False :=
    (known _ h).1.elim stages.1 stages.2
  have nothing : ∀ held, (none : Option (Stage × Order)) = some held → Recorded held :=
    fun _ h => absurd h.symm (Option.some_ne_none _)
  cases turn with
  | idle => exact ⟨nothing, ⟨stored, rfl, created⟩, rfl⟩
  | read reads answer isOpen => exact absurd created (ShipmentStatus.ne_created isOpen)
  | selected answer listed pending => rw [created] at pending; contradiction
  | waited => exact (impossible rfl (by simp)).elim
  | began => exact (impossible rfl (by simp)).elim
  | dropped => exact ⟨nothing, ⟨stored, rfl, created⟩, rfl⟩
  | prePersisted => exact (impossible rfl (by simp)).elim
  | booked => exact (impossible rfl (by simp)).elim
  | refused => exact (impossible rfl (by simp)).elim
  | saved => exact (impossible rfl (by simp)).elim
  | recorded => exact (impossible rfl (by simp)).elim
  | recovered => exact ⟨nothing, ⟨stored, rfl, created⟩, rfl⟩
  | lost =>
    refine ⟨?_, ⟨stored, rfl, created⟩, rfl⟩
    rintro _ ⟨⟩
    exact ⟨.inr rfl, (known _ rfl).2⟩
  | writtenOff answer => exact absurd (known _ rfl).2 (kept _ answer rfl)
  | tracked answer tracks =>
    obtain ⟨cycle, same⟩ := cycle
    rw [tracks] at same
    contradiction
  | cancelled answer cancels =>
    obtain ⟨cycle, same⟩ := cycle
    rw [cancels] at same
    contradiction

end

structure Task.CycleKnows (w : World) (task : Task) : Prop where
  cycle : task.settled = true ∨ ∃ cycle, task = .reconcile cycle
  rows : ∀ x held, task.hold? x = some held → Recorded held ∨ NotCreated (w.findOne x)

structure State.WorkerAlone (s : State) : Prop where
  wellFormed : s.WellFormed
  oneLive : s.OneLive
  cycles : ∀ task ∈ s.tasks, task.CycleKnows s.world

structure State.Recorded (x : String) (s : State) : Prop where
  row : ∃ row, s.world.findOne x = some row ∧ row.status = .created
  held : ∀ task ∈ s.tasks, ∀ held, task.hold? x = some held → CourierPlatform.Recorded held

section
variable {env : Env} {s t : State} {l : Label} {x : String}

theorem Task.CycleKnows.of_unsettled {w : World} {task : Task} (h : task.CycleKnows w)
    (live : task.settled = false) : ∃ cycle, task = .reconcile cycle := by
  rcases h.cycle with settled | cycle
  · rw [live] at settled; contradiction
  · exact cycle

theorem Task.WellFormed.revertsRecord {cycle : Reconcile} {loaded : Order}
    (h : (Task.reconcile cycle).WellFormed)
    (held : (Task.reconcile cycle).hold? x = some (.failing, loaded))
    (created : loaded.status = .created) : (Task.reconcile cycle).revertsRecord = true := by
  have mem := List.mem_of_find?_eq_some held
  cases cycle <;> simp [Task.holds, Reconcile.holds] at mem
  case updateCaught =>
    subst mem
    exact decide_eq_true created
  case updateUnsupported =>
    subst mem
    have pending := h.1.pending loaded List.mem_cons_self
    rw [created] at pending
    contradiction

theorem State.workerGuarded.kept {i : Nat} {a : Answer} {task : Task} {loaded : Order}
    (guard : s.workerGuarded (.settle i a)) (awaiting : s.tasks[i]? = some task)
    (cycle : ∃ cycle, task = .reconcile cycle) (wellFormed : task.WellFormed) (answer : a = .ok)
    (held : task.hold? x = some (.failing, loaded)) : loaded.status ≠ .created := by
  intro created
  obtain ⟨cycle, rfl⟩ := cycle
  subst answer
  have kept := guard.2
  simp only [keepsRecord, awaiting, Option.any_some,
    wellFormed.revertsRecord held created] at kept
  contradiction

theorem State.WorkerAlone.next (h : s.WorkerAlone) (allowed : s.workerOnly l = true)
    (moved : (platform env).next s l = some t) : t.WorkerAlone := by
  have moves := State.Moves.of_next moved
  have sequential := sequential_of_workerOnly allowed
  refine ⟨h.wellFormed.next moved, h.oneLive.next sequential moves, ?_⟩
  refine h.oneLive.forall_tasks h.cycles (fun w task settled => ⟨.inl settled, ?_⟩)
    (fun _ _ _ known => ⟨known.cycle, known.rows⟩) (fun request starts => ⟨?_, ?_⟩) ?_ sequential
    moves
  · intro x held holds
    rw [Task.hold?_of_settled settled] at holds
    contradiction
  · subst starts
    cases request <;> first | exact .inr ⟨_, rfl⟩ | exact Bool.noConfusion allowed
  · intro x held holds
    rw [(request.start_quiet env s.world.now).hold? x] at holds
    contradiction
  · intro i a task w' task' same awaiting step known
    obtain ⟨cycle, rfl⟩ := known.of_unsettled step.unsettled
    refine ⟨?_, fun x held holds => ?_⟩
    · cases step
      exact .inr ⟨_, rfl⟩
    · obtain ⟨calls, -, turn⟩ :=
        step.turnsOn (h.wellFormed.tasks _ (List.mem_of_getElem? awaiting)) x
      exact turn.recorded_or_notCreated (known.rows x) holds

theorem State.Recorded.next (h : s.Recorded x) (alone : s.WorkerAlone)
    (guard : s.workerGuarded l) (moved : (platform env).next s l = some t) :
    t.Recorded x ∧ t.world.dispatched x = s.world.dispatched x := by
  obtain ⟨row, stored, created⟩ := h.row
  obtain ⟨held, row', same⟩ := (State.Moves.of_next moved).keeps_order
    (fun hold => ∀ held, hold = some held → CourierPlatform.Recorded held)
    (fun row => ∃ stored, row = some stored ∧ stored.status = .created) alone.wellFormed
    (fun _ holds => absurd holds.symm (Option.some_ne_none _)) h.held h.row
    fun i a task after row' calls same awaiting live turn => by
      subst same
      have mem := List.mem_of_getElem? awaiting
      have cycle := (alone.cycles task mem).of_unsettled live
      rw [stored] at turn
      exact turn.created_stays created cycle (h.held task mem) fun loaded answer =>
        guard.kept awaiting cycle (alone.wellFormed.tasks task mem) answer
  exact ⟨⟨row', held⟩, same⟩

theorem State.WorkerAlone.init {w : World} (keyed : w.WellKeyed) : (State.init w).WorkerAlone where
  wellFormed := .init keyed
  oneLive := .of_idle rfl
  cycles _ mem := absurd mem List.not_mem_nil

/-- A row that the worker alone has brought to `CREATED` stays so and is not dispatched again,
whatever fails, unless the insertion of its event fails and the update of the `catch` branch
then succeeds. -/
theorem recorded_booking_kept {w : World} {row : Order} (keyed : w.WellKeyed)
    (first : (platform env).Reaches State.workerGuarded (State.init w) s)
    (stored : s.world.findOne x = some row) (created : row.status = .created)
    (later : (platform env).Reaches State.workerGuarded s t) :
    (∃ row', t.world.findOne x = some row' ∧ row'.status = .created) ∧
      t.world.dispatched x = s.world.dispatched x := by
  have known : s.WorkerAlone :=
    first.invariant State.WorkerAlone (.init keyed) fun _ _ _ inv guard moved =>
      inv.next guard.1 moved
  have recorded : s.Recorded x := by
    refine ⟨⟨row, stored, created⟩, fun task mem held holds => ?_⟩
    rcases (known.cycles task mem).rows x held holds with recorded | ⟨other, same, notCreated⟩
    · exact recorded
    · rw [stored] at same
      cases same
      exact absurd created notCreated
  have kept : t.WorkerAlone ∧ t.Recorded x ∧ t.world.dispatched x = s.world.dispatched x :=
    later.invariant (fun r => r.WorkerAlone ∧ r.Recorded x ∧
        r.world.dispatched x = s.world.dispatched x)
      ⟨known, recorded, rfl⟩ fun _ _ _ inv guard moved => by
        obtain ⟨stays, same⟩ := inv.2.1.next inv.1 guard moved
        exact ⟨inv.1.next guard.1 moved, stays, same.trans inv.2.2⟩
  exact ⟨kept.2.1.row, kept.2.2⟩

end

def abandonedOrder : World :=
  World.empty.bulkCreate ([parcel "A-1" "mock"].map (BulkOrderService.batchRecord 0))

theorem abandonedOrder_wellKeyed : abandonedOrder.WellKeyed := World.WellKeyed.empty.bulkCreate

/-- A cycle books the order, and the insertion of the event settles as given. -/
def recoveryWith (eventSettles : Answer) : List Label :=
  [.tick 60001, .start .reconcilePendingOrders, .settle 0 (.rows ["A-1"]),
    .settle 0 (.booked (bookingReply (parcel "A-1" "mock") "MCK1")), .settle 0 .ok,
    .settle 0 eventSettles]

theorem recorded_booking_kept_recovery :
    ∃ s t : State, (s.world.findOne "A-1").any (·.status = .created) = true ∧
      (∃ row', t.world.findOne "A-1" = some row' ∧ row'.status = .created) ∧
      t.world.dispatched "A-1" = s.world.dispatched "A-1" := by
  obtain ⟨s, first, test⟩ := Machine.Reaches.of_run_any production State.workerGuarded
    (State.init abandonedOrder) ((recoveryWith .ok).take 5)
    (fun s => (s.world.findOne "A-1").any (·.status = .created) &&
      (production.run State.workerGuarded s ((recoveryWith .ok).drop 5)).isSome) (by decide)
  obtain ⟨recorded, continues⟩ := Bool.and_eq_true_iff.mp test
  obtain ⟨row, stored, created⟩ := (Option.any_eq_true _ _).mp recorded
  obtain ⟨t, ran⟩ := Option.isSome_iff_exists.mp continues
  exact ⟨s, t, recorded, recorded_booking_kept abandonedOrder_wellKeyed first stored
    (by simpa using created) (.of_run ((recoveryWith .ok).drop 5) ran)⟩

/-- The event cannot be inserted: the `catch` branch makes the booked order pending again. -/
theorem record_reverted_by_failed_event :
    ¬ ∀ env w s t x row, World.WellKeyed w →
      (platform env).Reaches (fun s l => s.workerOnly l = true) (State.init w) s →
      s.world.findOne x = some row → row.status = .created →
      (platform env).Reaches (fun s l => s.workerOnly l = true) s t →
      (∃ row', t.world.findOne x = some row' ∧ row'.status = .created) ∧
        t.world.dispatched x = s.world.dispatched x := by
  intro claim
  let failed : List Label := recoveryWith (.dbError (.error "connection lost")) ++ [.settle 0 .ok]
  obtain ⟨s, first, test⟩ := Machine.Reaches.of_run_any production
    (fun s l => s.workerOnly l = true) (State.init abandonedOrder) (failed.take 5)
    (fun s => (s.world.findOne "A-1").any (·.status = .created) &&
      (production.run (fun s l => s.workerOnly l = true) s (failed.drop 5)).any
        fun t => (t.world.findOne "A-1").any (·.status = .pendingDispatch)) (by decide)
  obtain ⟨recorded, continues⟩ := Bool.and_eq_true_iff.mp test
  obtain ⟨row, stored, created⟩ := (Option.any_eq_true _ _).mp recorded
  obtain ⟨t, later, pending⟩ := Machine.Reaches.of_run_any _ _ s _ _ continues
  obtain ⟨⟨row', found, same⟩, -⟩ :=
    claim _ _ s t "A-1" row abandonedOrder_wellKeyed first stored (by simpa using created) later
  rw [found, Option.any_some, same] at pending
  contradiction

end CourierPlatform
