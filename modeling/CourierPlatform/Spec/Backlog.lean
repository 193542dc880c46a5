import CourierPlatform.Spec.Schedules

/-! The worker's backlog, and the runs of its cycles. -/
namespace CourierPlatform

def Order.eligible (env : Env) (row : Order) : Bool :=
  row.status = .pendingDispatch && decide ((row.retryCount : Int) < env.maxRetryAttempts)

def Order.attemptsLeft (env : Env) (row : Order) : Nat :=
  if row.eligible env then (env.maxRetryAttempts - row.retryCount).toNat else 0

def World.backlog (env : Env) (w : World) : Nat := w.orders.total (Order.attemptsLeft env)

/-- The query takes the order by now, if it takes it at all. -/
def Order.isStale (env : Env) (now : Int) (row : Order) : Bool :=
  !row.eligible env || row.updatedAt < now - env.staleThresholdMs

/-- Runs of the worker alone, without failing database operations, in which a cycle begins when the
one before has ended and all eligible rows are stale. -/
def State.drains (env : Env) (s : State) : Label → Bool
  | .start .reconcilePendingOrders =>
    s.idle && s.world.orders.rows.all (Order.isStale env s.world.now)
  | .start _ => false
  | .settle _ (.dbError _) => false
  | .settle _ _ => true
  | .tick _ => true
  | _ => false

def noteWork (_ : State) (l : Label) (_ : State) (cycles : Nat) : Nat :=
  match l with
  | .settle _ (.rows (_ :: _)) => cycles + 1
  | _ => cycles

/-- What the couriers answer and which rows a query returns. The choice may look at all that has
happened. -/
structure Surroundings (env : Env) where
  outcome : State → Except Thrown NormalizedCreateOrderResponse
  rows : State → Int → List String
  rows_result : ∀ s staleTimestamp,
    ReconciliationWorker.isResult env s.world staleTimestamp (rows s staleTimestamp) = true

namespace Surroundings

variable {env : Env} (around : Surroundings env) (s : State)

def answer : Reconcile → Answer
  | .findAll staleTimestamp => .rows (around.rows s staleTimestamp)
  | .createShipment .. =>
    match around.outcome s with
    | .ok reply => .booked reply
    | .error error => .refused error
  | _ => .ok

def drains (l : Label) : Prop :=
  s.drains env l = true ∧ ∀ i a cycle, l = .settle i a → s.tasks[i]? = some (.reconcile cycle) →
    a = around.answer s cycle

/-- The query returns the rows that stand first in the table, and a courier accepts or refuses all
bookings. -/
def firstRows (outcome : Except Thrown NormalizedCreateOrderResponse) : Surroundings env where
  outcome _ := outcome
  rows s staleTimestamp := ((s.world.orders.rows.filter
    (ReconciliationWorker.selects env staleTimestamp)).take ReconciliationWorker.batchLimit).map
      (·.orderId)
  rows_result s staleTimestamp := by
    refine ReconciliationWorker.isResult_iff.mpr ⟨?_, ?_, ?_⟩
    · exact s.world.orders.unique.sublist (((List.take_sublist ..).trans List.filter_sublist).map _)
    · intro x listed
      obtain ⟨row, taken, rfl⟩ := List.mem_map.mp listed
      obtain ⟨mem, matched⟩ := List.mem_filter.mp (List.mem_of_mem_take taken)
      exact ⟨row, Library.UniqueTable.find?_of_mem mem, matched⟩
    · rw [List.length_map, List.length_take, List.countP_eq_length_filter]

end Surroundings

def World.Drained (env : Env) (w after : World) : Prop :=
  ∀ x row, w.findOne x = some row → row.eligible env = true →
    ∃ row', after.findOne x = some row' ∧ (row'.status = .created ∨ row'.status = .failed)

theorem State.workerOnly_of_drains {env : Env} {s : State} {l : Label} (h : s.drains env l = true) :
    s.workerOnly l = true := by
  cases l with
  | start request =>
    cases request with
    | reconcilePendingOrders => exact (Bool.and_eq_true_iff.mp h).1
    | _ => exact h
  | settle => rfl
  | _ => exact h

end CourierPlatform
