import CourierPlatform.Proofs.Turns

/-! Whether the worker can still select a pending order. Its query asks for a retry count
below the limit; only the worker raises the count, and it writes a row off when the
limit is reached, but a resubmission makes such a row pending again as it is. -/
namespace CourierPlatform
open Library

def Task.updates? : Task → Option String
  | createOrder (.updateExisting _ existingOrder) => some existingOrder.orderId
  | bulkItem _ _ (.updateExisting _ existingOrder) => some existingOrder.orderId
  | _ => none

def Env.hasBudget (env : Env) (row : Order) : Bool := row.retryCount < env.maxRetryAttempts

/-- No row is made pending again with its retries used up, and no booking is answered with
`PENDING_DISPATCH`. -/
def State.withinBudget (env : Env) (s : State) : Label → Bool
  | .settle i .ok =>
    (s.tasks[i]?.bind Task.updates?).all fun x => (s.world.findOne x).all env.hasBudget
  | .settle _ (.booked reply) => reply.status ≠ .pendingDispatch
  | _ => true

def State.budgetGuarded (env : Env) (s : State) (l : Label) : Prop :=
  s.dispatchingWithCrashes l = true ∧ s.withinBudget env l = true

instance (env : Env) (s : State) (l : Label) : Decidable (s.budgetGuarded env l) :=
  inferInstanceAs (Decidable (_ ∧ _))

def Recoverable (env : Env) (row : Option Order) : Prop :=
  ∀ stored, row = some stored → stored.status = .pendingDispatch → env.hasBudget stored = true

def Stage.unanswered : Stage → Bool
  | waiting => true
  | dispatching => true
  | failing => true
  | _ => false

def PendingHeld (hold : Option (Stage × Order)) : Prop :=
  ∀ stage loaded, hold = some (stage, loaded) → stage.unanswered = true →
    loaded.status = .pendingDispatch

section
variable {env : Env} {now : Int} {x : String} {task : Task} {a : Answer}
  {before after : Option (Stage × Order)} {row row' : Option Order}
  {calls : List (Except Thrown NormalizedCreateOrderResponse)}

theorem WriteOff.hasBudget {mode : UpdateMode} {loaded stored : Order} {patch : OrderPatch}
    (h : WriteOff env loaded patch) (pending : loaded.status = .pendingDispatch)
    (still : (stored.write mode now loaded patch).status = .pendingDispatch) :
    env.hasBudget (stored.write mode now loaded patch) = true := by
  have closed {status : ShipmentStatus} (named : patch.status = some status) :
      status = .pendingDispatch := by
    by_contra other
    rw [Order.write_status_of_ne named (pending ▸ other)] at still
    contradiction
  cases h with
  | audit => exact absurd (closed rfl) (by decide)
  | unsupported => exact absurd (closed rfl) (by decide)
  | @caught nextRetry raises errorMessage =>
    have below : (nextRetry : Int) < env.maxRetryAttempts := by
      by_contra used
      have failed := closed rfl
      rw [if_pos (Int.not_lt.mp used)] at failed
      contradiction
    have raised : nextRetry ≠ loaded.retryCount := by
      rw [raises pending]
      exact Nat.succ_ne_self _
    have counted : (stored.write mode now loaded
        (ReconciliationWorker.caughtPatch env nextRetry errorMessage)).retryCount = nextRetry :=
      mode.column_of_ne raised stored.retryCount
    rw [Env.hasBudget, counted]
    exact decide_eq_true below

theorem Recoverable.of_closed {mode : UpdateMode} {loaded : Order} {patch : OrderPatch}
    {status : ShipmentStatus} (named : patch.status = some status)
    (pending : loaded.status = .pendingDispatch) (closed : status ≠ .pendingDispatch) :
    Recoverable env (row.map fun stored => stored.write mode now loaded patch) := by
  rintro _ written still
  obtain ⟨stored, -, rfl⟩ := Option.map_eq_some_iff.mp written
  rw [Order.write_status_of_ne named (pending ▸ closed)] at still
  exact absurd still closed

theorem Turn.recoverable (turn : Turn env now x task a before row after row' calls)
    (positive : 0 < env.maxRetryAttempts) (dispatches : task.dispatches = true)
    (held : PendingHeld before)
    (reply : ∀ reply loaded, before = some (.answered reply, loaded) →
      reply.status ≠ .pendingDispatch)
    (updates : ∀ loaded, a = .ok → before = some (.updating, loaded) →
      ∀ stored, row = some stored → env.hasBudget stored = true)
    (h : Recoverable env row) : Recoverable env row' := by
  cases turn with
  | inserted own next =>
    rintro _ ⟨⟩ -
    exact decide_eq_true positive
  | prePersisted answer =>
    rintro _ written -
    obtain ⟨stored, found, rfl⟩ := Option.map_eq_some_iff.mp written
    exact updates _ answer rfl stored found
  | saved answer pending => exact .of_closed rfl pending (reply _ _ rfl)
  | recorded answer pending => exact .of_closed rfl pending (by decide)
  | writtenOff answer writeOff =>
    rintro _ written pending
    obtain ⟨stored, -, rfl⟩ := Option.map_eq_some_iff.mp written
    exact writeOff.hasBudget (held _ _ rfl rfl) pending
  | tracked answer tracks => rw [tracks] at dispatches; contradiction
  | cancelled answer cancels => rw [cancels] at dispatches; contradiction
  | _ => exact h

theorem Turn.pendingHeld (turn : Turn env now x task a before row after row' calls)
    (faultless : ∀ error, a ≠ .dbError error) (h : PendingHeld before) : PendingHeld after := by
  cases turn with
  | read => rintro _ _ ⟨⟩ unanswered; contradiction
  | selected answer listed pending => rintro _ _ ⟨⟩ -; exact pending
  | inserted own next =>
    rcases next with rfl | rfl
    · rintro _ _ ⟨⟩
    · rintro _ _ ⟨⟩ -; rfl
  | waited => exact h
  | began => rintro _ _ ⟨⟩ -; exact h _ _ rfl rfl
  | prePersisted answer own next =>
    rcases next with rfl | rfl
    · rintro _ _ ⟨⟩
    · rintro _ _ ⟨⟩ -; rfl
  | booked => rintro _ _ ⟨⟩ unanswered; contradiction
  | refused => rintro _ _ ⟨⟩ -; exact h _ _ rfl rfl
  | recorded => rintro _ _ ⟨⟩ unanswered; contradiction
  | lost fault => exact absurd fault (faultless _)
  | _ => rintro _ _ ⟨⟩

end

def Task.AnswersClosed (task : Task) : Prop :=
  ∀ x reply loaded, task.hold? x = some (.answered reply, loaded) →
    reply.status ≠ .pendingDispatch

structure State.WithinBudget (env : Env) (s : State) : Prop where
  wellFormed : s.WellFormed
  dispatches : ∀ task ∈ s.tasks, task.dispatches = true
  held : ∀ task ∈ s.tasks, ∀ x, PendingHeld (task.hold? x)
  answers : ∀ task ∈ s.tasks, task.AnswersClosed
  rows : ∀ x, Recoverable env (s.world.findOne x)

section
variable {env : Env} {s t : State} {l : Label}

theorem Task.updates?_of_hold? {task : Task} {x : String} {loaded : Order}
    (held : task.hold? x = some (.updating, loaded)) : task.updates? = some x := by
  have own : loaded.orderId = x := by simpa using List.find?_some held
  have mem := List.mem_of_find?_eq_some held
  cases task with
  | createOrder call =>
    cases call <;> simp [holds, CreateOrder.hold?] at mem
    exact congrArg some (mem ▸ own)
  | bulkItem bulk index call =>
    cases call <;> simp [holds, CreateOrder.hold?] at mem
    exact congrArg some (mem ▸ own)
  | reconcile cycle => cases cycle <;> simp [holds, Reconcile.holds] at mem
  | _ => simp [holds] at mem

theorem State.faultless_of_dispatching {i : Nat} {a : Answer}
    (h : s.dispatchingWithCrashes (.settle i a) = true) : ∀ error, a ≠ .dbError error := by
  rintro error rfl
  exact Bool.noConfusion h

theorem State.WithinBudget.next (h : s.WithinBudget env) (positive : 0 < env.maxRetryAttempts)
    (guard : s.budgetGuarded env l) (moved : (platform env).next s l = some t) :
    t.WithinBudget env := by
  have moves := State.Moves.of_next moved
  refine ⟨h.wellFormed.next moved, dispatches_next h.dispatches guard.1 moves, ?_, ?_, ?_⟩
  · refine moves.forall_tasks_of_quiet (fun j task found _ => h.held task
      (List.mem_of_getElem? found)) (fun task quiet x stage loaded held => ?_) ?_
    · rw [quiet.hold? x] at held
      contradiction
    · rintro i a task task' rfl awaiting step x
      have mem := List.mem_of_getElem? awaiting
      obtain ⟨calls, -, turn⟩ := step.turnsOn (h.wellFormed.tasks task mem) x
      exact turn.pendingHeld (faultless_of_dispatching guard.1) (h.held task mem x)
  · refine moves.forall_tasks_of_quiet (fun j task found _ => h.answers task
      (List.mem_of_getElem? found)) (fun task quiet x reply loaded held => ?_) ?_
    · rw [quiet.hold? x] at held
      contradiction
    · rintro i a task task' rfl awaiting step x reply loaded held
      obtain ⟨calls, -, turn⟩ :=
        step.turnsOn (h.wellFormed.tasks task (List.mem_of_getElem? awaiting)) x
      rw [held] at turn
      obtain ⟨rfl, -⟩ := turn.answered
      simpa [withinBudget] using guard.2
  · cases moves with
    | @settled i a task w' task' awaiting step =>
      intro x
      have mem := List.mem_of_getElem? awaiting
      obtain ⟨calls, -, turn⟩ := step.turnsOn (h.wellFormed.tasks task mem) x
      refine turn.recoverable positive (h.dispatches task mem) (h.held task mem x)
        (fun reply loaded held => h.answers task mem x reply loaded held) ?_ (h.rows x)
      rintro loaded rfl held stored found
      simpa [withinBudget, awaiting, Task.updates?_of_hold? held, found] using guard.2
    | _ => exact h.rows

theorem State.WithinBudget.init : (State.init .empty).WithinBudget env where
  wellFormed := .init .empty
  dispatches _ mem := absurd mem List.not_mem_nil
  held _ mem := absurd mem List.not_mem_nil
  answers _ mem := absurd mem List.not_mem_nil
  rows x stored found := by simp [State.init, World.empty, World.findOne] at found

/-- Every pending order has retries left, in every run of `createOrder` calls and worker cycles with
crashes of the API process at any point, if no pre-persisting update hits a row whose
retries are used up and no courier answers a booking with `PENDING_DISPATCH`. -/
theorem pending_has_budget (positive : 0 < env.maxRetryAttempts)
    (reach : (platform env).Reaches (State.budgetGuarded env) (State.init .empty) s) {x : String}
    {row : Order} (stored : s.world.findOne x = some row)
    (pending : row.status = .pendingDispatch) :
    (row.retryCount : Int) < env.maxRetryAttempts := by
  have budget : s.WithinBudget env :=
    reach.invariant (State.WithinBudget env) .init fun _ _ _ inv guard moved =>
      inv.next positive guard moved
  simpa [Env.hasBudget] using budget.rows x row stored pending

end

def refusedCycle (cycle : Nat) : List Label :=
  [.tick 60001, .start .reconcilePendingOrders, .settle cycle (.rows ["A-1"]),
    .settle cycle (.refused (.error "timeout")), .settle cycle .ok]

def crashedSubmission : List Label :=
  [.start (.createOrder (parcel "A-1" "mock")), .settle 0 .ok, .settle 0 .ok, .crash [0]]

theorem pending_has_budget_crashedSubmission :
    ∃ (s : State) (row : Order), s.world.findOne "A-1" = some row ∧
      row.status = .pendingDispatch ∧ row.retryCount = 1 ∧ (row.retryCount : Int) < 3 := by
  obtain ⟨s, reach, test⟩ := Machine.Reaches.of_run_any production
    (State.budgetGuarded (defaultEnv .postgres .named)) (State.init .empty)
    (crashedSubmission ++ refusedCycle 1)
    (fun s => (s.world.findOne "A-1").any fun row =>
      row.status = .pendingDispatch && row.retryCount = 1) (by decide)
  obtain ⟨row, stored, same⟩ := (Option.any_eq_true _ _).mp test
  simp only [Bool.and_eq_true, decide_eq_true_eq] at same
  exact ⟨s, row, stored, same.1, same.2,
    pending_has_budget (by decide) reach stored same.1⟩

/-- After three refused cycles the row is written off; submitted again, it is pending with no
retries left when the process dies. -/
theorem pending_out_of_budget :
    ¬ ∀ env s x row, 0 < env.maxRetryAttempts →
      (platform env).Reaches (fun s l => s.dispatchingWithCrashes l = true) (State.init .empty) s →
      s.world.findOne x = some row → row.status = .pendingDispatch →
      (row.retryCount : Int) < env.maxRetryAttempts := by
  intro claim
  obtain ⟨s, reach, test⟩ := Machine.Reaches.of_run_any production
    (fun s l => s.dispatchingWithCrashes l = true) (State.init .empty)
    (crashedSubmission ++ refusedCycle 1 ++ refusedCycle 2 ++ refusedCycle 3 ++
      [.start (.createOrder (parcel "A-1" "mock")), .settle 4 .ok, .settle 4 .ok, .crash [4]])
    (fun s => (s.world.findOne "A-1").any fun row =>
      row.status = .pendingDispatch && row.retryCount = 3) (by decide)
  obtain ⟨row, stored, same⟩ := (Option.any_eq_true _ _).mp test
  simp only [Bool.and_eq_true, decide_eq_true_eq] at same
  have below := claim _ s "A-1" row (by decide) reach stored same.1
  rw [same.2] at below
  contradiction

end CourierPlatform
