import CourierPlatform.Proofs.Sequential
import CourierPlatform.Spec.Backlog

/-! How the worker alone works off its backlog. An attempt that ends takes its order out of the backlog
or leaves it there with one attempt less, so a cycle that finds work lowers what is left. -/
namespace CourierPlatform
open Library

section
variable {env : Env} {mode : UpdateMode} {row loaded : Order} {patch : OrderPatch} {now : Int}

theorem Order.eligible_iff : row.eligible env = true ↔
    row.status = .pendingDispatch ∧ (row.retryCount : Int) < env.maxRetryAttempts := by
  simp [eligible]

theorem Order.attemptsLeft_pos (h : row.eligible env = true) : 0 < row.attemptsLeft env := by
  have budget := (eligible_iff.mp h).2
  rw [attemptsLeft, if_pos h]
  omega

theorem UpdateMode.column_loaded {α : Type} [DecidableEq α] (mode : UpdateMode) (loaded value : α) :
    mode.column loaded (some value) loaded = value := by
  rcases mode.column_some loaded value loaded with new | ⟨same, old⟩
  · exact new
  · rw [old, same]

theorem Order.write_loaded_status {status : ShipmentStatus} (named : patch.status = some status) :
    (row.write mode now row patch).status = status := by
  simp only [write, named, mode.column_loaded]

theorem Order.write_loaded_retryCount {count : Nat} (named : patch.retryCount = some count) :
    (row.write mode now row patch).retryCount = count := by
  simp only [write, named, mode.column_loaded]

/-- What the end of an attempt makes of the row: it is settled, or eligible with one attempt less. -/
structure Spent (env : Env) (row row' : Order) : Prop where
  fewer : row'.attemptsLeft env < row.attemptsLeft env
  left : row'.status = .created ∨ row'.status = .failed ∨ row'.eligible env = true

theorem Spent.of_closed {row' : Order} (eligible : row.eligible env = true)
    (closed : row'.status = .created ∨ row'.status = .failed) : Spent env row row' := by
  have ineligible : row'.eligible env = false := by
    rcases closed with created | failed
    · simp [Order.eligible, created]
    · simp [Order.eligible, failed]
  refine ⟨?_, closed.imp_right .inl⟩
  rw [Order.attemptsLeft, ineligible]
  exact Order.attemptsLeft_pos eligible

theorem Spent.unsupported (eligible : row.eligible env = true) (nextRetry : Nat) :
    Spent env row
      (row.write mode now row (ReconciliationWorker.unsupportedPatch row nextRetry)) :=
  .of_closed eligible (.inr (Order.write_loaded_status rfl))

theorem Spent.recorded (eligible : row.eligible env = true) (reply : NormalizedCreateOrderResponse)
    (nextRetry : Nat) :
    Spent env row (row.write mode now row (ReconciliationWorker.createdPatch reply nextRetry)) :=
  .of_closed eligible (.inl (Order.write_loaded_status rfl))

theorem Spent.caught (eligible : row.eligible env = true) (message : String) :
    Spent env row (row.write mode now row
      (ReconciliationWorker.caughtPatch env (row.retryCount + 1) message)) := by
  obtain ⟨pending, budget⟩ := Order.eligible_iff.mp eligible
  by_cases final : ((row.retryCount + 1 : Nat) : Int) ≥ env.maxRetryAttempts
  · apply Spent.of_closed eligible
    right
    apply Order.write_loaded_status
    simp only [ReconciliationWorker.caughtPatch, if_pos final]
  · have status : (row.write mode now row
        (ReconciliationWorker.caughtPatch env (row.retryCount + 1) message)).status =
          .pendingDispatch := by
      apply Order.write_loaded_status
      simp only [ReconciliationWorker.caughtPatch, if_neg final]
    have count : (row.write mode now row
        (ReconciliationWorker.caughtPatch env (row.retryCount + 1) message)).retryCount =
          row.retryCount + 1 := Order.write_loaded_retryCount rfl
    have still : (row.write mode now row
        (ReconciliationWorker.caughtPatch env (row.retryCount + 1) message)).eligible env = true := by
      rw [Order.eligible_iff, status, count]
      exact ⟨rfl, by omega⟩
    refine ⟨?_, .inr (.inr still)⟩
    rw [Order.attemptsLeft, if_pos still, Order.attemptsLeft, if_pos eligible, count]
    omega

end

def Reconcile.toUpdate : Reconcile → List Order
  | updateUnsupported order _ rest _ => order :: rest
  | createShipment order _ _ rest _ => order :: rest
  | updateCreated order _ _ rest _ => order :: rest
  | createEvent _ _ _ rest _ => rest
  | updateCaught order _ _ rest _ => order :: rest
  | _ => []

def Reconcile.attempting? : Reconcile → Option (Order × Nat)
  | updateUnsupported order nextRetry _ _ => some (order, nextRetry)
  | createShipment order nextRetry _ _ _ => some (order, nextRetry)
  | updateCreated order nextRetry _ _ _ => some (order, nextRetry)
  | updateCaught order nextRetry _ _ _ => some (order, nextRetry)
  | _ => none

/-- What a cycle knows when nobody else writes: its rows are eligible and stand in the table as they
were loaded, and before its query all eligible rows are stale. -/
structure Reconcile.Knows (env : Env) (w : World) (cycle : Reconcile) : Prop where
  stored : ∀ order ∈ cycle.toUpdate, w.findOne order.orderId = some order
  eligible : ∀ order ∈ cycle.toUpdate, order.eligible env = true
  distinct : (cycle.toUpdate.map Order.orderId).Nodup
  counted : ∀ order nextRetry, cycle.attempting? = some (order, nextRetry) →
    nextRetry = order.retryCount + 1
  stale : ∀ staleTimestamp, cycle = .findAll staleTimestamp → ∀ row ∈ w.orders.rows,
    row.eligible env = true → row.updatedAt < staleTimestamp

inductive Reconcile.Progress (env : Env) (w : World) (cycle : Reconcile) (a : Answer) (w' : World)
    (cycle' : Reconcile) : Prop where
  | stayed (answer : ∀ orderIds, a ≠ .rows orderIds) (orders : w'.orders = w.orders)
      (same : cycle'.toUpdate = cycle.toUpdate)
  | selected {staleTimestamp orderIds} (answer : a = .rows orderIds)
      (before : cycle = .findAll staleTimestamp)
      (result : ReconciliationWorker.isResult env w staleTimestamp orderIds = true)
      (world : w' = w) (rows : cycle'.toUpdate = orderIds.filterMap w.findOne)
  | ended {order patch} (answer : a = .ok) (row : cycle.toUpdate = order :: cycle'.toUpdate)
      (world : w' = w.updateOrder env order patch)
      (spent : Spent env order (order.write env.updateMode w.now order patch))

section
variable {env : Env} {w w' : World} {cycle cycle' : Reconcile} {a : Answer} {order : Order}
  {rest orders : List Order} {patch : OrderPatch} {count : Nat}

theorem nextOrder_toUpdate : (ReconciliationWorker.nextOrder env count orders).toUpdate = orders := by
  cases orders with
  | nil => rfl
  | cons order rest =>
    rcases ReconciliationWorker.reconcileSingleOrder_cases env order rest count with
      ⟨adapter, -, same⟩ | same <;>
      rw [ReconciliationWorker.nextOrder, same] <;> rfl

theorem nextOrder_attempting {nextRetry : Nat}
    (h : (ReconciliationWorker.nextOrder env count orders).attempting? = some (order, nextRetry)) :
    nextRetry = order.retryCount + 1 := by
  cases orders with
  | nil => contradiction
  | cons first rest =>
    rcases ReconciliationWorker.reconcileSingleOrder_cases env first rest count with
      ⟨adapter, -, same⟩ | same <;>
      · rw [ReconciliationWorker.nextOrder, same] at h
        cases h
        rfl

theorem nextOrder_ne_findAll {staleTimestamp : Int} :
    ReconciliationWorker.nextOrder env count orders ≠ .findAll staleTimestamp := by
  cases orders with
  | nil => exact Reconcile.noConfusion
  | cons first rest =>
    rcases ReconciliationWorker.reconcileSingleOrder_cases env first rest count with
      ⟨adapter, -, same⟩ | same <;>
      · rw [ReconciliationWorker.nextOrder, same]
        exact Reconcile.noConfusion

namespace Reconcile.Knows

theorem nextOrder (stored : ∀ order ∈ orders, w.findOne order.orderId = some order)
    (eligible : ∀ order ∈ orders, order.eligible env = true)
    (distinct : (orders.map Order.orderId).Nodup) :
    (ReconciliationWorker.nextOrder env count orders).Knows env w where
  stored := by rwa [nextOrder_toUpdate]
  eligible := by rwa [nextOrder_toUpdate]
  distinct := by rwa [nextOrder_toUpdate]
  counted _ _ attempt := nextOrder_attempting attempt
  stale _ same := absurd same nextOrder_ne_findAll

theorem findAll {staleTimestamp : Int}
    (stale : ∀ row ∈ w.orders.rows, row.eligible env = true → row.updatedAt < staleTimestamp) :
    (Reconcile.findAll staleTimestamp).Knows env w where
  stored _ mem := absurd mem List.not_mem_nil
  eligible _ mem := absurd mem List.not_mem_nil
  distinct := List.nodup_nil
  counted _ _ attempt := (Option.some_ne_none _ attempt.symm).elim
  stale _ same := Reconcile.findAll.inj same ▸ stale

theorem stored_tail (h : cycle.Knows env w) (row : cycle.toUpdate = order :: rest) :
    ∀ other ∈ rest, (w.updateOrder env order patch).findOne other.orderId = some other := by
  intro other mem
  have distinct := h.distinct
  rw [row, List.map_cons, List.nodup_cons] at distinct
  have apart : other.orderId ≠ order.orderId := by
    intro same
    exact distinct.1 (same ▸ List.mem_map_of_mem mem)
  rw [World.findOne_updateOrder, if_neg apart]
  exact h.stored other (row ▸ List.mem_cons_of_mem _ mem)

theorem eligible_tail (h : cycle.Knows env w) (row : cycle.toUpdate = order :: rest) :
    ∀ other ∈ rest, other.eligible env = true :=
  fun other mem => h.eligible other (row ▸ List.mem_cons_of_mem _ mem)

theorem distinct_tail (h : cycle.Knows env w) (row : cycle.toUpdate = order :: rest) :
    (rest.map Order.orderId).Nodup := by
  have distinct := h.distinct
  rw [row, List.map_cons, List.nodup_cons] at distinct
  exact distinct.2

theorem eligible_head (h : cycle.Knows env w) (row : cycle.toUpdate = order :: rest) :
    order.eligible env = true :=
  h.eligible order (row ▸ List.mem_cons_self)

theorem of_orders (h : cycle.Knows env w) (orders : w'.orders = w.orders) : cycle.Knows env w' := by
  refine ⟨?_, h.eligible, h.distinct, h.counted, ?_⟩
  · intro order mem
    rw [World.findOne, orders]
    exact h.stored order mem
  · rw [orders]
    exact h.stale

end Reconcile.Knows

theorem ReconciliationWorker.selected_eligible {staleTimestamp : Int} {orderIds : List String}
    (result : isResult env w staleTimestamp orderIds = true) :
    ∀ order ∈ orderIds.filterMap w.findOne, order.eligible env = true := by
  intro order mem
  obtain ⟨pending, -, budget⟩ := matched_of_isResult result mem
  exact Order.eligible_iff.mpr ⟨pending, budget⟩

theorem ReconciliationWorker.stored_of_isResult {staleTimestamp : Int} {orderIds : List String}
    (result : isResult env w staleTimestamp orderIds = true) {x : String} (listed : x ∈ orderIds) :
    ∃ row, w.findOne x = some row := by
  obtain ⟨row, found, -⟩ := (isResult_iff.mp result).2.1 x listed
  exact ⟨row, found⟩

/-- The step lemma: what a cycle knows stays true, and an attempt that ends is spent. -/
theorem ReconciliationWorker.Moves.progress (moved : Moves env w cycle a w' cycle')
    (answered : ∀ error, a ≠ .dbError error) (h : cycle.Knows env w) :
    cycle'.Knows env w' ∧ cycle.Progress env w a w' cycle' := by
  cases moved with
  | selected result =>
    refine ⟨.nextOrder ?_ (selected_eligible result) (selected_distinct result),
      .selected rfl rfl result rfl nextOrder_toUpdate⟩
    intro order mem
    exact (mem_result mem).2
  | @unsupported order nextRetry rest count =>
    have row : (Reconcile.updateUnsupported order nextRetry rest count).toUpdate = order :: rest :=
      rfl
    refine ⟨.nextOrder (h.stored_tail row) (h.eligible_tail row) (h.distinct_tail row),
      .ended rfl ?_ rfl (Spent.unsupported (h.eligible_head row) nextRetry)⟩
    rw [nextOrder_toUpdate, row]
  | booked =>
    exact ⟨⟨h.stored, h.eligible, h.distinct, h.counted, fun _ same => Reconcile.noConfusion same⟩,
      .stayed nofun rfl rfl⟩
  | refused =>
    exact ⟨⟨h.stored, h.eligible, h.distinct, h.counted, fun _ same => Reconcile.noConfusion same⟩,
      .stayed nofun rfl rfl⟩
  | @recorded order nextRetry reply rest count =>
    have row : (Reconcile.updateCreated order nextRetry reply rest count).toUpdate = order :: rest :=
      rfl
    refine ⟨⟨h.stored_tail row, h.eligible_tail row, h.distinct_tail row, ?_, ?_⟩,
      .ended rfl row rfl (Spent.recorded (h.eligible_head row) reply nextRetry)⟩
    · intro attempted count attempt
      exact (Option.some_ne_none _ attempt.symm).elim
    · intro staleTimestamp same
      exact Reconcile.noConfusion same
  | @recovered order nextRetry reply rest count =>
    have known : (nextOrder env (count + 1) rest).Knows env w :=
      .nextOrder h.stored h.eligible h.distinct
    exact ⟨known.of_orders rfl, .stayed nofun rfl nextOrder_toUpdate⟩
  | @caught order nextRetry message rest count =>
    have row : (Reconcile.updateCaught order nextRetry message rest count).toUpdate = order :: rest :=
      rfl
    have counted := h.counted _ _ rfl
    subst counted
    refine ⟨.nextOrder (h.stored_tail row) (h.eligible_tail row) (h.distinct_tail row),
      .ended rfl ?_ rfl (Spent.caught (h.eligible_head row) message)⟩
    rw [nextOrder_toUpdate, row]
  | unsupportedLost error => exact absurd rfl (answered error)
  | recordLost error => exact absurd rfl (answered error)
  | eventLost error => exact absurd rfl (answered error)
  | aborted => exact absurd rfl (answered _)

end

def Task.KnowsBacklog (env : Env) (w : World) (task : Task) : Prop :=
  task.settled = true ∨ ∃ cycle, task = .reconcile cycle ∧ cycle.Knows env w

def State.Working (s : State) : Prop :=
  ∃ (i : Nat) (cycle : Reconcile), s.tasks[i]? = some (.reconcile cycle) ∧ cycle.toUpdate ≠ []

structure Order.Kept (env : Env) (row : Order) (after : Option Order) : Prop where
  untouched : row.eligible env = false → after = some row
  left : row.eligible env = true → ∃ row', after = some row' ∧
    (row'.status = .created ∨ row'.status = .failed ∨ row'.eligible env = true)

/-- Each of the cycles that found work since the table was `w` has lowered the backlog, but for one that
has not ended an attempt yet. -/
def State.Credit (env : Env) (w : World) (s : State) (cycles : Nat) : Prop :=
  cycles + s.world.backlog env ≤ w.backlog env ∨
    s.Working ∧ cycles + s.world.backlog env ≤ w.backlog env + 1

structure State.Draining (env : Env) (w : World) (s : State) (cycles : Nat) : Prop where
  oneLive : s.OneLive
  knows : ∀ task ∈ s.tasks, task.KnowsBacklog env s.world
  credit : s.Credit env w cycles
  rows : ∀ x row, w.findOne x = some row → row.Kept env (s.world.findOne x)

section
variable {env : Env} {w w' : World} {s t : State} {l : Label} {a : Answer} {n i : Nat}
  {cycle cycle' : Reconcile} {order : Order} {patch : OrderPatch}

theorem World.backlog_updateOrder (env : Env) (patch : OrderPatch)
    (stored : w.findOne order.orderId = some order) :
    (w.updateOrder env order patch).backlog env + order.attemptsLeft env =
      w.backlog env + (order.write env.updateMode w.now order patch).attemptsLeft env :=
  UniqueTable.total_modify (f := fun row => row.write env.updateMode w.now order patch)
    (fun _ => rfl) stored

theorem World.attemptsLeft_le_backlog (env : Env) {x : String} {row : Order}
    (found : w.findOne x = some row) :
    row.attemptsLeft env ≤ w.backlog env :=
  UniqueTable.le_total found

theorem World.backlog_of_orders (orders : w'.orders = w.orders) :
    w'.backlog env = w.backlog env := by
  rw [backlog, orders, backlog]

theorem Reconcile.settled_toUpdate (h : cycle.settled = true) : cycle.toUpdate = [] := by
  cases cycle <;> first | rfl | contradiction

theorem State.Working.index (h : s.Working) (one : s.OneLive) {task : Task}
    (found : s.tasks[i]? = some task) (live : task.settled = false) :
    ∃ cycle, task = .reconcile cycle ∧ cycle.toUpdate ≠ [] := by
  obtain ⟨j, cycle, there, holds⟩ := h
  have unsettled : (Task.reconcile cycle).settled = false := by
    cases settled : cycle.settled with
    | false => exact settled
    | true => exact absurd (Reconcile.settled_toUpdate settled) holds
  obtain rfl := one j i _ _ there found unsettled live
  cases there.symm.trans found
  exact ⟨cycle, rfl, holds⟩

theorem State.Draining.le_backlog (h : s.Draining env w n) : n ≤ w.backlog env := by
  rcases h.credit with within | ⟨⟨i, cycle, found, holds⟩, within⟩
  · omega
  · have unsettled : (Task.reconcile cycle).settled ≠ true := by
      intro settled
      exact holds (Reconcile.settled_toUpdate settled)
    rcases h.knows _ (List.mem_of_getElem? found) with settled | ⟨_, same, knows⟩
    · exact absurd settled unsettled
    · cases same
      obtain ⟨order, mem⟩ := List.exists_mem_of_ne_nil _ holds
      have one := Order.attemptsLeft_pos (knows.eligible order mem)
      have part := World.attemptsLeft_le_backlog env (knows.stored order mem)
      omega

theorem Order.Kept.updated {x : String} {row : Order}
    (stored : w.findOne order.orderId = some order) (eligible : order.eligible env = true)
    (spent : Spent env order (order.write env.updateMode w.now order patch))
    (h : row.Kept env (w.findOne x)) : row.Kept env ((w.updateOrder env order patch).findOne x) := by
  rw [World.findOne_updateOrder]
  by_cases own : x = order.orderId
  · subst own
    rw [if_pos rfl, stored]
    constructor
    · intro ineligible
      cases stored.symm.trans (h.untouched ineligible)
      rw [eligible] at ineligible
      contradiction
    · intro _
      exact ⟨_, rfl, spent.left⟩
  · rwa [if_neg own]

theorem State.Working.set (found : s.tasks[i]? = some (.reconcile cycle))
    (tasks : t.tasks = s.tasks.set i (.reconcile cycle')) (holds : cycle'.toUpdate ≠ []) :
    t.Working := by
  refine ⟨i, cycle', ?_, holds⟩
  rw [tasks]
  apply List.getElem?_set_self
  exact (List.getElem?_eq_some_iff.mp found).1

theorem noteWork_eq (answer : ∀ orderIds, a ≠ .rows orderIds) :
    noteWork s (.settle i a) t n = n := by
  unfold noteWork
  split
  · next same => exact absurd (Label.settle.inj same).2 (answer _)
  · rfl

theorem State.Draining.credit_settle (h : s.Draining env w n)
    (found : s.tasks[i]? = some (.reconcile cycle)) (live : cycle.settled = false)
    (knows : cycle.Knows env s.world) (progress : cycle.Progress env s.world a t.world cycle')
    (tasks : t.tasks = s.tasks.set i (.reconcile cycle')) :
    t.Credit env w (noteWork s (.settle i a) t n) := by
  have holding (working : s.Working) : cycle.toUpdate ≠ [] := by
    obtain ⟨_, own, holds⟩ := working.index h.oneLive found live
    cases own
    exact holds
  cases progress with
  | stayed answer orders same =>
    rw [noteWork_eq answer, State.Credit, World.backlog_of_orders orders]
    refine h.credit.imp_right fun ⟨working, within⟩ => ⟨.set found tasks ?_, within⟩
    rw [same]
    exact holding working
  | @selected staleTimestamp orderIds answer before result world rows =>
    subst answer before
    have within := h.credit.resolve_right fun ⟨working, _⟩ => holding working rfl
    rw [State.Credit, world]
    cases orderIds with
    | nil => exact .inl within
    | cons first others =>
      refine .inr ⟨.set found tasks ?_, ?_⟩
      · obtain ⟨row, here⟩ := ReconciliationWorker.stored_of_isResult result List.mem_cons_self
        rw [rows, List.filterMap_cons_some here]
        exact List.cons_ne_nil _ _
      · change n + 1 + _ ≤ _
        omega
  | @ended order patch answer row world spent =>
    subst answer
    have stored := knows.stored order (row ▸ List.mem_cons_self)
    have change := World.backlog_updateOrder env patch stored
    have fewer := spent.fewer
    have note : noteWork s (.settle i .ok) t n = n := rfl
    rw [State.Credit, note, world]
    left
    rcases h.credit with within | ⟨-, within⟩
    · omega
    · omega

theorem Order.Kept.step (knows : cycle.Knows env w) (progress : cycle.Progress env w a w' cycle')
    {x : String} {row : Order} (h : row.Kept env (w.findOne x)) : row.Kept env (w'.findOne x) := by
  cases progress with
  | stayed answer orders same =>
    rw [World.findOne, orders]
    exact h
  | selected answer before result world rows => rwa [world]
  | @ended order patch answer own world spent =>
    have head : order ∈ cycle.toUpdate := own ▸ List.mem_cons_self
    rw [world]
    exact h.updated (knows.stored order head) (knows.eligible order head) spent

theorem State.sequential_of_drains (drains : s.drains env l = true) : s.sequential l = true :=
  sequential_of_workerOnly (workerOnly_of_drains drains)

theorem State.answered_of_drains (drains : s.drains env (.settle i a) = true) :
    ∀ error, a ≠ .dbError error := by
  rintro error rfl
  exact Bool.noConfusion drains

theorem Task.KnowsBacklog.progress {task task' : Task} (h : task.KnowsBacklog env w)
    (moved : task.Moves env w a w' task') (answered : ∀ error, a ≠ .dbError error) :
    ∃ cycle cycle', task = .reconcile cycle ∧ task' = .reconcile cycle' ∧ cycle.settled = false ∧
      cycle.Knows env w ∧ cycle'.Knows env w' ∧ cycle.Progress env w a w' cycle' := by
  have live := moved.unsettled
  rcases h with settled | ⟨cycle, rfl, knows⟩
  · rw [live] at settled
    contradiction
  · cases moved with
    | @reconcile _ _ _ cycle' step =>
      obtain ⟨knows', progress⟩ := step.progress answered knows
      exact ⟨cycle, cycle', rfl, rfl, live, knows, knows', progress⟩

theorem State.knowsBacklog_next (h : s.Draining env w n) (drains : s.drains env l = true)
    (moves : Moves env s l t) : ∀ task ∈ t.tasks, task.KnowsBacklog env t.world := by
  refine h.oneLive.forall_tasks h.knows (fun _ _ => .inl) ?_ ?_ ?_ (sequential_of_drains drains) moves
  · rintro w ms task (settled | ⟨cycle, rfl, knows⟩)
    · exact .inl settled
    · exact .inr ⟨cycle, rfl, knows.of_orders rfl⟩
  · rintro request rfl
    cases request with
    | reconcilePendingOrders =>
      have stale := (Bool.and_eq_true_iff.mp drains).2
      refine .inr ⟨_, rfl, .findAll fun row mem eligible => ?_⟩
      simpa [Order.isStale, eligible] using List.all_eq_true.mp stale row mem
    | _ => exact Bool.noConfusion drains
  · rintro i a task w' task' rfl found moved knows
    obtain ⟨cycle, cycle', rfl, rfl, live, -, knows', -⟩ :=
      knows.progress moved (answered_of_drains drains)
    exact .inr ⟨cycle', rfl, knows'⟩

theorem State.Draining.next (h : s.Draining env w n) (drains : s.drains env l = true)
    (moves : Moves env s l t) : t.Draining env w (noteWork s l t n) := by
  refine ⟨h.oneLive.next (sequential_of_drains drains) moves, knowsBacklog_next h drains moves, ?_, ?_⟩
  · cases moves with
    | started request =>
      refine h.credit.imp_right fun ⟨⟨i, cycle, found, holds⟩, within⟩ => ⟨⟨i, cycle, ?_, holds⟩, within⟩
      rw [List.getElem?_append_left (List.getElem?_eq_some_iff.mp found).1]
      exact found
    | settled found moved =>
      obtain ⟨cycle, cycle', rfl, rfl, live, knows, -, progress⟩ :=
        (h.knows _ (List.mem_of_getElem? found)).progress moved (answered_of_drains drains)
      exact h.credit_settle found live knows progress rfl
    | ticked ms => exact h.credit
    | _ => exact Bool.noConfusion drains
  · cases moves with
    | started request => exact h.rows
    | settled found moved =>
      obtain ⟨cycle, cycle', rfl, rfl, -, knows, -, progress⟩ :=
        (h.knows _ (List.mem_of_getElem? found)).progress moved (answered_of_drains drains)
      exact fun x row begun => (h.rows x row begun).step knows progress
    | ticked ms => exact h.rows
    | _ => exact Bool.noConfusion drains

theorem State.Draining.init (w : World) : (State.init w).Draining env w 0 where
  oneLive := .of_idle rfl
  knows _ mem := absurd mem List.not_mem_nil
  credit := by
    left
    rw [Nat.zero_add]
    exact Nat.le_refl _
  rows _ row begun := ⟨fun _ => begun, fun eligible => ⟨row, begun, .inr (.inr eligible)⟩⟩

theorem State.draining
    (reach : ((platform env).observed noteWork).Reaches (fun s l => s.1.drains env l = true)
      (State.init w, 0) (s, n)) : s.Draining env w n := by
  refine @Machine.Reaches.observed_invariant _ _ _ (State.drains env · · = true) _ _ _ _ _ _
    (State.Draining env w) (.init w) ?_ reach
  intro a l b n h drains moved
  exact h.next drains (.of_next moved)

end
end CourierPlatform
