import CourierPlatform.Library.Ownership
import CourierPlatform.Proofs.Turns

/-! What the retry count of a row counts. A cycle raises it from the value it loaded, so the
count is right only if nobody else writes it in between; the runs of one row are then
bounded by the limit of the query, over the whole life of the row. -/
namespace CourierPlatform
open Library ReconciliationWorker

/-- What the worker has done with one order: `reconcileSingleOrder` calls that have returned, and
`createShipment` calls sent. -/
structure Tally where
  completed : Nat
  issued : Nat

def Reconcile.completes : Reconcile → Answer → Option String
  | updateUnsupported order _ _ _, .ok => some order.orderId
  | createEvent order _ _ _ _, .ok => some order.orderId
  | updateCaught order _ _ _ _, .ok => some order.orderId
  | _, _ => none

def Reconcile.sends : Reconcile → Option String
  | createShipment order _ _ _ _ => some order.orderId
  | _ => none

def Tally.add (x : String) (cycle : Reconcile) (a : Answer) (cycle' : Reconcile) (n : Tally) :
    Tally where
  completed := n.completed + if cycle.completes a = some x then 1 else 0
  issued := n.issued + if cycle'.sends = some x then 1 else 0

def Tally.note (x : String) (s : State) (l : Label) (t : State) (n : Tally) : Tally :=
  match l with
  | .settle i a =>
    match s.tasks[i]?, t.tasks[i]? with
    | some (.reconcile cycle), some (.reconcile cycle') => n.add x cycle a cycle'
    | _, _ => n
  | _ => n

def State.oneCycle (s : State) : Label → Bool
  | .start .reconcilePendingOrders => !s.tasks.any Task.runningCycle
  | .settle i (.dbError _) => (s.tasks[i]?).all Task.isApi
  | _ => true

def Task.recording (x : String) : Task → Bool
  | reconcile (.createEvent order _ _ _ _) => order.orderId = x
  | _ => false

def State.recording (s : State) (x : String) : Bool := s.tasks.any (Task.recording x)

def Fresh (env : Env) (loaded : Order) (row : Option Order) : Prop :=
  loaded.status = .pendingDispatch ∧ ∃ stored, row = some stored ∧
    stored.retryCount = loaded.retryCount ∧ (stored.retryCount : Int) < env.maxRetryAttempts

/-- Runs of `reconcileSingleOrder` that a row has counted and that have not returned. -/
def Stage.counted : Stage → Nat
  | recorded => 1
  | _ => 0

def Stage.begun : Stage → Nat
  | waiting => 0
  | _ => 1

theorem Stage.counted_le_begun (stage : Stage) : stage.counted ≤ stage.begun := by
  cases stage <;> first | exact Nat.le_refl _ | exact Nat.zero_le _

def countedOf (hold : Option (Stage × Order)) : Nat := (hold.map fun held => held.1.counted).getD 0

def begunOf (hold : Option (Stage × Order)) : Nat := (hold.map fun held => held.1.begun).getD 0

@[simp] theorem countedOf_none : countedOf none = 0 := rfl

@[simp] theorem countedOf_some (stage : Stage) (loaded : Order) :
    countedOf (some (stage, loaded)) = stage.counted := rfl

@[simp] theorem begunOf_none : begunOf none = 0 := rfl

@[simp] theorem begunOf_some (stage : Stage) (loaded : Order) :
    begunOf (some (stage, loaded)) = stage.begun := rfl

/-- How the tally of an order, its row and what the cycle holds of it belong together. -/
structure Balance (env : Env) (hold : Option (Stage × Order)) (row : Option Order) (n : Tally) :
    Prop where
  counts : ∀ stored, row = some stored → stored.retryCount = n.completed + countedOf hold
  absent : row = none → n.completed + countedOf hold = 0
  issued : n.issued ≤ n.completed + begunOf hold
  limit : ((n.completed + begunOf hold : Nat) : Int) ≤ env.maxRetryAttempts
  fresh : ∀ stage loaded, hold = some (stage, loaded) → stage.counted = 0 → Fresh env loaded row

def CountKept (before after : Option Order) : Prop :=
  (∀ stored, before = some stored →
    ∃ stored', after = some stored' ∧ stored'.retryCount = stored.retryCount) ∧
  (before = none → ∀ stored', after = some stored' → stored'.retryCount = 0)

section
variable {env : Env} {w w' : World} {a : Answer} {x : String} {n : Tally}
  {row row' : Option Order} {hold : Option (Stage × Order)}

theorem CountKept.refl (row : Option Order) : CountKept row row :=
  ⟨fun stored here => ⟨stored, here, rfl⟩, fun absent _ here => by rw [absent] at here; contradiction⟩

theorem CountKept.updateOrder {loaded : Order} {patch : OrderPatch}
    (unnamed : patch.retryCount = none) :
    CountKept (w.findOne x) ((w.updateOrder env loaded patch).findOne x) := by
  rw [World.findOne_updateOrder]
  split
  next =>
    refine ⟨fun stored here => ⟨_, by rw [here]; rfl, ?_⟩, fun absent stored' here => ?_⟩
    · simp [Order.write, unnamed]
    · rw [absent] at here
      contradiction
  next => exact .refl _

theorem Task.Moves.countKept {task task' : Task} (moved : Moves env w task a w' task')
    (other : ∀ cycle, task ≠ .reconcile cycle) (x : String) :
    CountKept (w.findOne x) (w'.findOne x) := by
  have served {call call' : CreateOrder} (moved : OrderService.Moves env w call a w' call') :
      CountKept (w.findOne x) (w'.findOne x) := by
    cases moved with
    | prePersisted => exact .updateOrder rfl
    | @inserted orderData created inserted =>
      rw [w.findOne_createOrder? inserted]
      split
      next own =>
        have absent : w.findOne x = none := own ▸ w.findOne_of_createOrder? inserted
        refine ⟨fun stored here => ?_, fun _ stored' here => ?_⟩
        · rw [absent] at here
          contradiction
        · cases here
          rfl
      next => exact .refl _
    | audited => exact .updateOrder rfl
    | savedSqlite => exact .updateOrder rfl
    | savedPostgres => exact .updateOrder rfl
    | _ => exact .refl _
  cases moved with
  | createOrder moved => exact served moved
  | bulkItem moved => exact served moved
  | createBulkOrders moved =>
    cases moved with
    | prePersisted =>
      rw [World.findOne_bulkCreate]
      refine ⟨fun stored here => ⟨stored, by rw [here]; rfl, rfl⟩, fun absent stored' here => ?_⟩
      rw [absent, Option.none_or] at here
      obtain ⟨request, -, rfl⟩ := List.mem_map.mp (List.mem_of_find?_eq_some here)
      rfl
    | _ => exact .refl _
  | trackOrder moved =>
    cases moved with
    | statusUpdated => exact .updateOrder rfl
    | _ => exact .refl _
  | cancelOrder moved =>
    cases moved with
    | committed => exact .updateOrder rfl
    | _ => exact .refl _
  | reconcile moved => exact absurd rfl (other _)

theorem Balance.of_countKept (h : Balance env hold row n) (kept : CountKept row row') :
    Balance env hold row' n := by
  refine ⟨fun stored' here => ?_, fun absent => ?_, h.issued, h.limit, fun stage loaded held unread => ?_⟩
  · cases before : row with
    | none =>
      rw [kept.2 before stored' here]
      exact (h.absent before).symm
    | some stored =>
      obtain ⟨other, there, same⟩ := kept.1 stored before
      cases here.symm.trans there
      rw [same]
      exact h.counts stored before
  · cases before : row with
    | none => exact h.absent before
    | some stored =>
      obtain ⟨other, there, -⟩ := kept.1 stored before
      rw [absent] at there
      contradiction
  · obtain ⟨pending, stored, here, same, below⟩ := h.fresh stage loaded held unread
    obtain ⟨other, there, kept⟩ := kept.1 stored here
    exact ⟨pending, other, there, kept.trans same, by rw [kept]; exact below⟩

theorem Balance.goOn {rest : List Order} (count : Nat)
    (h : Balance env (ofRest x rest) row n) :
    Balance env ((Task.reconcile (nextOrder env count rest)).hold? x) row
      ⟨n.completed, n.issued + if (nextOrder env count rest).sends = some x then 1 else 0⟩ := by
  cases rest with
  | nil => exact h
  | cons order later =>
    by_cases own : order.orderId = x
    · have waits : ofRest x (order :: later) = some (.waiting, order) := by simp [ofRest, own]
      rw [waits] at h
      obtain ⟨pending, stored, here, same, below⟩ := h.fresh _ _ rfl rfl
      have counted := h.counts stored here
      have issued := h.issued
      have uncounted : Stage.waiting.counted = 0 := rfl
      have unbegun : Stage.waiting.begun = 0 := rfl
      simp only [countedOf_some, begunOf_some, uncounted, unbegun] at counted issued
      have begins {cycle : Reconcile} {stage : Stage}
          (held : cycle.holds = (stage, order) :: later.map (Prod.mk .waiting))
          (begun : stage.begun = 1) (same' : stage.counted = 0) {more : Nat} (one : more ≤ 1) :
          Balance env ((Task.reconcile cycle).hold? x) row ⟨n.completed, n.issued + more⟩ := by
        rw [hold?_current held, if_pos own]
        refine ⟨?_, ?_, ?_, ?_, ?_⟩
        · simpa only [countedOf_some, uncounted, same'] using h.counts
        · simpa only [countedOf_some, uncounted, same'] using h.absent
        · simp only [begunOf_some, begun]
          omega
        · simp only [begunOf_some, begun]
          omega
        · rintro _ _ ⟨⟩ -
          exact ⟨pending, stored, here, same, below⟩
      rcases reconcileSingleOrder_cases env order later count with ⟨_, -, sent⟩ | written
      · rw [nextOrder, sent]
        exact begins rfl rfl rfl (by split <;> omega)
      · rw [nextOrder, written]
        exact begins rfl rfl rfl (by split <;> omega)
    · have waits : ofRest x (order :: later) = ofRest x later := by simp [ofRest, own]
      rw [waits] at h
      rcases reconcileSingleOrder_cases env order later count with ⟨_, -, sent⟩ | written
      · rw [nextOrder, sent, hold?_current rfl, if_neg own]
        simpa [Reconcile.sends, own] using h
      · rw [nextOrder, written, hold?_current rfl, if_neg own]
        simpa [Reconcile.sends] using h

theorem Balance.restage {stage stage' : Stage} {loaded : Order}
    (h : Balance env (some (stage, loaded)) row n) (begun : stage'.begun = stage.begun)
    (counted : stage'.counted = stage.counted) : Balance env (some (stage', loaded)) row n where
  counts := by simpa only [countedOf_some, counted] using h.counts
  absent := by simpa only [countedOf_some, counted] using h.absent
  issued := by simpa only [begunOf_some, begun] using h.issued
  limit := by simpa only [begunOf_some, begun] using h.limit
  fresh := by
    rintro _ _ ⟨⟩ uncounted
    exact h.fresh stage loaded rfl (counted ▸ uncounted)

/-- The write of the current row raises its count by one, also where only changed fields are
written: the new count differs from the loaded one. -/
theorem Balance.write {stage : Stage} {loaded : Order}
    (h : Balance env (some (stage, loaded)) row n) (mode : UpdateMode) (now : Int)
    (patch : OrderPatch) (uncounted : stage.counted = 0)
    (named : patch.retryCount = some (loaded.retryCount + 1)) :
    ∃ stored, (row.map fun stored => stored.write mode now loaded patch) = some stored ∧
      stored.retryCount = n.completed + 1 := by
  obtain ⟨-, stored, here, same, -⟩ := h.fresh stage loaded rfl uncounted
  have counted := h.counts stored here
  rw [countedOf_some, uncounted] at counted
  refine ⟨_, by rw [here]; rfl, ?_⟩
  simp only [Order.write, named]
  rw [mode.column_of_ne (Nat.succ_ne_self _)]
  omega

theorem Balance.returned {stage : Stage} {loaded stored : Order}
    (h : Balance env (some (stage, loaded)) row n) (begun : stage.begun = 1)
    (here : row' = some stored) (counted : stored.retryCount = n.completed + 1) :
    Balance env none row' ⟨n.completed + 1, n.issued⟩ := by
  have issued := h.issued
  have limit := h.limit
  rw [begunOf_some, begun] at issued limit
  refine ⟨?_, fun absent => ?_, issued, limit, fun _ _ none => by contradiction⟩
  · intro other there
    cases here.symm.trans there
    exact counted
  · rw [here] at absent
    contradiction

theorem Balance.recorded {stage : Stage} {loaded loaded' stored : Order}
    (h : Balance env (some (stage, loaded)) row n) (begun : stage.begun = 1)
    (here : row' = some stored) (counted : stored.retryCount = n.completed + 1) :
    Balance env (some (.recorded, loaded')) row' n := by
  refine ⟨?_, fun absent => ?_, ?_, ?_, ?_⟩
  · intro other there
    cases here.symm.trans there
    exact counted
  · rw [here] at absent
    contradiction
  · have issued := h.issued
    rwa [begunOf_some, begun] at issued
  · have limit := h.limit
    rwa [begunOf_some, begun] at limit
  · rintro _ _ ⟨⟩ uncounted
    contradiction

theorem nextOrder_sends {count : Nat} {rest : List Order}
    (sent : (nextOrder env count rest).sends = some x) : x ∈ rest.map Order.orderId := by
  cases rest with
  | nil => contradiction
  | cons order later =>
    rcases reconcileSingleOrder_cases env order later count with ⟨_, -, same⟩ | same
    · rw [nextOrder, same] at sent
      exact List.mem_cons.mpr (.inl (Option.some.inj sent).symm)
    · rw [nextOrder, same] at sent
      contradiction

section
variable {cycle cycle' : Reconcile} {stage stage' : Stage} {order order' : Order}
  {rest : List Order}

theorem Balance.finish (count : Nat) (h : Balance env ((Task.reconcile cycle).hold? x) row n)
    (held : cycle.holds = (stage, order) :: rest.map (Prod.mk .waiting))
    (distinct : order.orderId ∉ rest.map Order.orderId)
    (completes : cycle.completes a = some order.orderId)
    (others : order.orderId ≠ x → row' = row)
    (own : order.orderId = x → Balance env (some (stage, order)) row n →
      Balance env none row' ⟨n.completed + 1, n.issued⟩) :
    Balance env ((Task.reconcile (ReconciliationWorker.nextOrder env count rest)).hold? x) row'
      (n.add x cycle a (ReconciliationWorker.nextOrder env count rest)) := by
  rw [hold?_current held] at h
  unfold Tally.add
  by_cases mine : order.orderId = x
  · have last : x ∉ rest.map Order.orderId := mine ▸ distinct
    rw [if_pos mine] at h
    rw [hold?_nextOrder_of_notMem last, completes, mine, if_pos rfl,
      if_neg fun sent => last (nextOrder_sends sent)]
    exact own mine h
  · rw [if_neg mine] at h
    rw [others mine, completes, if_neg fun same => mine (Option.some.inj same)]
    exact h.goOn count

theorem Balance.stay (h : Balance env ((Task.reconcile cycle).hold? x) row n)
    (held : cycle.holds = (stage, order) :: rest.map (Prod.mk .waiting))
    (held' : cycle'.holds = (stage', order') :: rest.map (Prod.mk .waiting))
    (same : order'.orderId = order.orderId) (runs : cycle.completes a = none)
    (silent : cycle'.sends = none) (others : order.orderId ≠ x → row' = row)
    (own : order.orderId = x → Balance env (some (stage, order)) row n →
      Balance env (some (stage', order')) row' n) :
    Balance env ((Task.reconcile cycle').hold? x) row' (n.add x cycle a cycle') := by
  rw [hold?_current held] at h
  rw [hold?_current held', same, Tally.add, runs, silent]
  by_cases mine : order.orderId = x
  · rw [if_pos mine] at h ⊢
    exact own mine h
  · rw [if_neg mine] at h ⊢
    rw [others mine]
    exact h

theorem Balance.selected {stale : Int} {orderIds : List String}
    (h : Balance env none (w.findOne x) n) (result : isResult env w stale orderIds = true) :
    Balance env (ofRest x (orderIds.filterMap w.findOne)) (w.findOne x) n := by
  cases found : (orderIds.filterMap w.findOne).find? fun order => order.orderId = x with
  | none =>
    rw [ofRest, found]
    exact h
  | some order =>
    have own : order.orderId = x := by simpa using List.find?_some found
    have mem := List.mem_of_find?_eq_some found
    obtain ⟨-, stored⟩ := mem_result mem
    obtain ⟨pending, -, budget⟩ := matched_of_isResult result mem
    rw [ofRest, found]
    refine ⟨h.counts, h.absent, h.issued, h.limit, ?_⟩
    rintro _ _ ⟨⟩ -
    exact ⟨pending, order, own ▸ stored, rfl, budget⟩

theorem ReconciliationWorker.Moves.balance (moved : Moves env w cycle a w' cycle')
    (wellFormed : cycle.WellFormed) (faultless : ∀ error, a ≠ .dbError error)
    (h : Balance env ((Task.reconcile cycle).hold? x) (w.findOne x) n) :
    Balance env ((Task.reconcile cycle').hold? x) (w'.findOne x) (n.add x cycle a cycle') := by
  cases moved with
  | selected result => exact (Balance.selected h result).goOn 0
  | @unsupported order nextRetry rest count =>
    refine h.finish count rfl wellFormed.1.begun.distinct rfl
      (fun other => w.findOne_updateOrder_other x other) fun own h => ?_
    obtain ⟨stored, here, counted⟩ := h.write env.updateMode w.now
      (unsupportedPatch order nextRetry) rfl (congrArg some wellFormed.2)
    exact h.returned rfl ((w.findOne_updateOrder_own x own).trans here) counted
  | booked => exact h.stay rfl rfl rfl rfl rfl (fun _ => rfl) fun _ h => h.restage rfl rfl
  | refused => exact h.stay rfl rfl rfl rfl rfl (fun _ => rfl) fun _ h => h.restage rfl rfl
  | @recorded order nextRetry reply rest count =>
    refine h.stay rfl rfl rfl rfl rfl (fun other => w.findOne_updateOrder_other x other)
      fun own h => ?_
    obtain ⟨stored, here, counted⟩ := h.write env.updateMode w.now
      (ReconciliationWorker.createdPatch reply nextRetry) rfl (congrArg some wellFormed.2)
    exact h.recorded rfl ((w.findOne_updateOrder_own x own).trans here) counted
  | recovered =>
    refine h.finish _ rfl wellFormed.1.distinct rfl (fun _ => rfl) fun _ h => ?_
    cases stored : w.findOne x with
    | none =>
      have absent := h.absent stored
      simp [Stage.counted] at absent
    | some row => exact h.returned rfl stored (h.counts row stored)
  | @caught order nextRetry errorMessage rest count =>
    refine h.finish count rfl wellFormed.1.distinct rfl
      (fun other => w.findOne_updateOrder_other x other) fun own h => ?_
    have pending := (h.fresh _ _ rfl rfl).1
    obtain ⟨stored, here, counted⟩ := h.write env.updateMode w.now
      (caughtPatch env nextRetry errorMessage) rfl (congrArg some (wellFormed.2 pending))
    exact h.returned rfl ((w.findOne_updateOrder_own x own).trans here) counted
  | unsupportedLost error => exact absurd rfl (faultless error)
  | recordLost error => exact absurd rfl (faultless error)
  | eventLost error => exact absurd rfl (faultless error)
  | aborted => exact absurd rfl (faultless _)

end
end

def Task.cycle? : Task → Option Reconcile
  | reconcile cycle => some cycle
  | _ => none

def State.running (s : State) (i : Nat) : Option Reconcile :=
  (s.tasks[i]?.bind Task.cycle?).filter fun cycle => !cycle.settled

def viewOf (x : String) (cycle : Option Reconcile) : Option (Stage × Order) :=
  cycle.bind fun cycle => (Task.reconcile cycle).hold? x

section
variable {env : Env} {s t : State} {l : Label} {x : String} {n : Tally}

theorem Task.Moves.cycle? {w w' : World} {task task' : Task} {a : Answer}
    (moved : Moves env w task a w' task') (other : ∀ cycle, task ≠ .reconcile cycle) :
    task.cycle? = none ∧ task'.cycle? = none := by
  cases moved with
  | reconcile moved => exact absurd rfl (other _)
  | _ => exact ⟨rfl, rfl⟩

theorem Request.start_cycle? {request : Request} {now : Int}
    (other : request ≠ .reconcilePendingOrders) : (request.start env now).cycle? = none := by
  cases request <;> first | rfl | exact absurd rfl other

theorem running_set {tasks : List Task} {i : Nat} {task task' : Task} {w : World}
    (here : tasks[i]? = some task) :
    State.running ⟨w, tasks.set i task'⟩ = Function.update (State.running ⟨w, tasks⟩) i
      (task'.cycle?.filter fun cycle => !cycle.settled) := by
  funext j
  unfold State.running
  by_cases same : j = i
  · subst same
    rw [Function.update_self, getElem?_set_of_some here]
    rfl
  · rw [Function.update_of_ne same, List.getElem?_set_ne (Ne.symm same)]

theorem running_append {tasks : List Task} {task : Task} {w : World} :
    State.running ⟨w, tasks ++ [task]⟩ = Function.update (State.running ⟨w, tasks⟩) tasks.length
      (task.cycle?.filter fun cycle => !cycle.settled) := by
  funext j
  unfold State.running
  by_cases same : j = tasks.length
  · subst same
    simp
  · rw [Function.update_of_ne same, List.getElem?_append]
    split
    next => rfl
    next beyond =>
      have outside : tasks[j]? = none := List.getElem?_eq_none (Nat.le_of_not_lt beyond)
      have apart : ¬j - tasks.length < 1 := by omega
      simp [outside, apart]

theorem running_of_cycle? {tasks : List Task} {i : Nat} {task : Task} {w : World}
    (here : tasks[i]? = some task) (other : task.cycle? = none) :
    State.running ⟨w, tasks⟩ i = none := by
  simp [State.running, here, other]

theorem update_running {s : State} {i : Nat} (off : s.running i = none) :
    Function.update s.running i none = s.running := by
  rw [← off, Function.update_eq_self]

theorem running_length (s : State) : s.running s.tasks.length = none := by
  simp [State.running]

theorem State.Moves.worker (moves : Moves env s l t) :
    (∃ i a cycle cycle', l = .settle i a ∧ s.tasks[i]? = some (.reconcile cycle) ∧
      t.tasks[i]? = some (.reconcile cycle') ∧ cycle.settled = false ∧
      ReconciliationWorker.Moves env s.world cycle a t.world cycle' ∧
      t.running = Function.update s.running i
        ((some cycle').filter fun cycle => !cycle.settled)) ∨
    (l = .start .reconcilePendingOrders ∧ t.world = s.world ∧
      t.running = Function.update s.running s.tasks.length
        (some (reconcilePendingOrders env s.world.now))) ∨
    (t.running = s.running ∧ (∀ x n, Tally.note x s l t n = n) ∧
      ∀ x, CountKept (s.world.findOne x) (t.world.findOne x)) := by
  cases moves with
  | started request =>
    by_cases cycle : request = .reconcilePendingOrders
    · subst cycle
      exact .inr (.inl ⟨rfl, rfl, running_append⟩)
    · refine .inr (.inr ⟨?_, fun _ _ => rfl, fun _ => .refl _⟩)
      rw [running_append, Request.start_cycle? cycle]
      exact update_running (running_length s)
  | @settled i a task w' task' awaiting step =>
    have bound := (List.getElem?_eq_some_iff.mp awaiting).1
    by_cases worker : ∃ cycle, task = .reconcile cycle
    · obtain ⟨cycle, rfl⟩ := worker
      have live := step.unsettled
      cases step with
      | reconcile moved =>
        exact .inl ⟨i, a, cycle, _, rfl, awaiting, List.getElem?_set_self bound, live, moved,
          running_set awaiting⟩
    · have other : ∀ cycle, task ≠ .reconcile cycle := fun cycle same => worker ⟨cycle, same⟩
      have none := step.cycle? other
      refine .inr (.inr ⟨?_, fun x n => ?_, step.countKept other⟩)
      · rw [running_set awaiting, none.2]
        exact update_running (running_of_cycle? awaiting none.1)
      · unfold Tally.note
        simp only [awaiting]
        cases task with
        | reconcile cycle => exact absurd rfl (other cycle)
        | _ => rfl
  | @itemStarted i batchId orders currentIndex orderItem awaiting item =>
    refine .inr (.inr ⟨?_, fun _ _ => rfl, fun _ => .refl _⟩)
    have length : (s.tasks.set i (.createBulkOrders (.executing batchId orders
        (currentIndex + 1)))).length = s.tasks.length := List.length_set ..
    rw [running_append, running_set awaiting, length]
    have still : Function.update s.running i none = s.running :=
      update_running (running_of_cycle? awaiting rfl)
    exact (congrArg (Function.update · s.tasks.length none) still).trans
      (update_running (running_length s))
  | @collected i batchId orders currentIndex results awaiting all settled =>
    refine .inr (.inr ⟨?_, fun _ _ => rfl, fun _ => .refl _⟩)
    rw [running_set awaiting]
    exact update_running (running_of_cycle? awaiting rfl)
  | died dead =>
    refine .inr (.inr ⟨?_, fun _ _ => rfl, fun _ => .refl _⟩)
    funext j
    unfold State.running
    simp only [List.getElem?_mapIdx]
    cases s.tasks[j]? with
    | none => rfl
    | some task =>
      simp only [Option.map_some, Option.bind_some]
      split
      next killed => cases task <;> first | rfl | exact Bool.noConfusion killed.2
      next => rfl
  | ticked ms => exact .inr (.inr ⟨rfl, fun _ _ => rfl, fun _ => .refl _⟩)

structure State.Counted (env : Env) (x : String) (s : State) (n : Tally) : Prop where
  wellFormed : s.WellFormed
  worker : ∃ cycle, SoleOwner s.running cycle ∧
    Balance env (viewOf x cycle) (s.world.findOne x) n

theorem State.Counted.next (h : s.Counted env x n) (guard : s.oneCycle l = true)
    (moved : (platform env).next s l = some t) : t.Counted env x (Tally.note x s l t n) := by
  have moves := State.Moves.of_next moved
  refine ⟨h.wellFormed.next moved, ?_⟩
  obtain ⟨held, owner, balance⟩ := h.worker
  rcases moves.worker with ⟨i, a, cycle, cycle', rfl, here, there, live, step, running⟩ |
    ⟨rfl, world, running⟩ | ⟨running, noted, kept⟩
  · have shows : s.running i = some cycle := by simp [State.running, here, Task.cycle?, live]
    cases owner.eq_of_holds shows
    have faultless : ∀ error, a ≠ .dbError error := by
      rintro error rfl
      simp [State.oneCycle, here, Task.isApi] at guard
    have after := step.balance (h.wellFormed.tasks _ (List.mem_of_getElem? here)) faultless balance
    refine ⟨_, running ▸ owner.change shows _, ?_⟩
    simp only [Tally.note, here, there]
    cases ended : cycle'.settled with
    | false => simpa [viewOf, Option.filter, ended] using after
    | true =>
      have nothing : (Task.reconcile cycle').hold? x = none := by
        cases cycle' <;> first | rfl | exact Bool.noConfusion ended
      simpa [viewOf, Option.filter, ended, nothing] using after
  · have idle : ∀ i, s.running i = none := by
      intro i
      unfold State.running
      cases here : s.tasks[i]? with
      | none => rfl
      | some task =>
        have off : task.runningCycle = false := by
          have none := guard
          simp only [State.oneCycle, Bool.not_eq_true', List.any_eq_false] at none
          exact Bool.eq_false_iff.mpr (none task (List.mem_of_getElem? here))
        cases task with
        | reconcile cycle => simpa [Task.cycle?, Task.runningCycle, Option.filter] using off
        | _ => rfl
    cases owner.eq_none idle
    exact ⟨_, running ▸ owner.take _, world ▸ balance⟩
  · rw [noted]
    exact ⟨held, running ▸ owner, balance.of_countKept (kept x)⟩

theorem State.Counted.init (positive : 1 ≤ env.maxRetryAttempts) :
    (State.init .empty).Counted env x ⟨0, 0⟩ where
  wellFormed := .init .empty
  worker := by
    refine ⟨none, fun i => rfl, ⟨fun _ found => ?_, fun _ => rfl, Nat.le_refl 0, ?_, ?_⟩⟩
    · simp [State.init, World.empty, World.findOne] at found
    · exact Int.le_trans (Int.le_of_lt Int.zero_lt_one) positive
    · rintro _ _ ⟨⟩

theorem State.countedOf_view {cycle : Option Reconcile} (owner : SoleOwner s.running cycle) :
    countedOf (viewOf x cycle) = if s.recording x then 1 else 0 := by
  have shown {task : Task} (mem : task ∈ s.tasks) (recording : task.recording x = true) :
      countedOf (viewOf x cycle) = 1 := by
    obtain ⟨i, here⟩ := List.getElem?_of_mem mem
    cases task with
    | reconcile current =>
      have shows : s.running i = some current := by
        cases current <;> first | exact Bool.noConfusion recording |
          simp [State.running, here, Task.cycle?, Reconcile.settled]
      cases owner.eq_of_holds shows
      cases current with
      | createEvent order nextRetry reply rest count =>
        have own : order.orderId = x := of_decide_eq_true recording
        rw [viewOf, Option.bind_some, hold?_current rfl, if_pos own]
        rfl
      | _ => contradiction
    | _ => contradiction
  split
  next recording =>
    obtain ⟨task, mem, recording⟩ := List.any_eq_true.mp recording
    exact shown mem recording
  next quiet =>
    cases cycle with
    | none => rfl
    | some current =>
      obtain ⟨i, shows, -⟩ := owner
      obtain ⟨found, -⟩ := Option.filter_eq_some_iff.mp shows
      obtain ⟨task, here, same⟩ := Option.bind_eq_some_iff.mp found
      cases task with
      | reconcile other =>
        cases Option.some.inj same
        have other : ¬(Task.reconcile current).recording x = true := fun recording =>
          quiet (List.any_eq_true.mpr ⟨_, List.mem_of_getElem? here, recording⟩)
        have waiting (rest : List Order) : countedOf (ofRest x rest) = 0 := by
          unfold ofRest
          cases rest.find? fun order => order.orderId = x <;> rfl
        cases current <;> try rfl
        all_goals
          rw [viewOf, Option.bind_some, hold?_current rfl]
          split
        all_goals first | exact waiting _ | rfl | skip
        rename_i own
        exact absurd (decide_eq_true own) other
      | _ => contradiction

/-- In every run with one cycle at a time: the retry count of a row is the number of
`reconcileSingleOrder` calls for it that have returned, and one more while a cycle has
written the booking but not yet its event; it never exceeds the limit, and neither does the
number of `createShipment` calls that the worker has sent for the order. -/
theorem retry_count_accounts (positive : 1 ≤ env.maxRetryAttempts)
    (reach : ((platform env).observed (Tally.note x)).Reaches
      (fun s l => s.1.oneCycle l = true) (State.init .empty, ⟨0, 0⟩) (s, n)) :
    (∀ row, s.world.findOne x = some row →
      row.retryCount = n.completed + (if s.recording x then 1 else 0) ∧
        (row.retryCount : Int) ≤ env.maxRetryAttempts) ∧
    (n.issued : Int) ≤ env.maxRetryAttempts := by
  have counted : s.Counted env x n := by
    refine @Machine.Reaches.observed_invariant _ _ _ (fun s l => s.oneCycle l = true) _ _ _ _ _ _
      (State.Counted env x) (.init positive) ?_ reach
    exact fun _ _ _ _ inv guard moved => inv.next guard moved
  obtain ⟨cycle, owner, balance⟩ := counted.worker
  have limit := balance.limit
  have ahead : countedOf (viewOf x cycle) ≤ begunOf (viewOf x cycle) := by
    cases viewOf x cycle with
    | none => exact Nat.le_refl 0
    | some held => exact held.1.counted_le_begun
  refine ⟨fun row stored => ?_, ?_⟩
  · have counts := balance.counts row stored
    refine ⟨by rw [counts, State.countedOf_view owner], ?_⟩
    omega
  · have issued := balance.issued
    omega

end
def abandonedThenSelected : List Label :=
  [.start (.createOrder (parcel "A-1" "mock")), .settle 0 .ok, .settle 0 .ok, .crash [0],
    .tick 60001, .start .reconcilePendingOrders, .settle 1 (.rows ["A-1"])]

theorem retry_count_accounts_refused :
    ∃ (s : State) (n : Tally) (row : Order), s.world.findOne "A-1" = some row ∧
      n.completed = 1 ∧ row.retryCount = n.completed + (if s.recording "A-1" then 1 else 0) ∧
      (n.issued : Int) ≤ 3 := by
  obtain ⟨⟨s, n⟩, reach, test⟩ := Machine.Reaches.of_run_any
    (production.observed (Tally.note "A-1")) (fun s l => s.1.oneCycle l = true)
    (State.init .empty, ⟨0, 0⟩)
    (abandonedThenSelected ++ [.settle 1 (.refused (.error "timeout")), .settle 1 .ok])
    (fun s => (s.1.world.findOne "A-1").isSome && s.2.completed = 1) (by decide)
  simp only [Bool.and_eq_true, decide_eq_true_eq] at test
  obtain ⟨row, stored⟩ := Option.isSome_iff_exists.mp test.1
  have accounts := retry_count_accounts (by decide) reach
  exact ⟨s, n, row, stored, test.2, (accounts.1 row stored).1, accounts.2⟩

/-- Between the two writes of a recovery the count is ahead of the runs that have returned. -/
theorem retry_count_ahead :
    ¬ ∀ env x s n, 1 ≤ env.maxRetryAttempts →
      ((platform env).observed (Tally.note x)).Reaches
        (fun s l => s.1.oneCycle l = true) (State.init .empty, ⟨0, 0⟩) (s, n) →
      (∀ row, s.world.findOne x = some row →
        row.retryCount = n.completed ∧ (row.retryCount : Int) ≤ env.maxRetryAttempts) ∧
      (n.issued : Int) ≤ env.maxRetryAttempts := by
  intro claim
  let orderData := parcel "A-1" "mock"
  obtain ⟨⟨s, n⟩, reach, test⟩ := Machine.Reaches.of_run_any
    (production.observed (Tally.note "A-1")) (fun s l => s.1.oneCycle l = true)
    (State.init .empty, ⟨0, 0⟩)
    (abandonedThenSelected ++ [.settle 1 (.booked (bookingReply orderData "MCK1")), .settle 1 .ok])
    (fun s => (s.1.world.findOne "A-1").any (·.retryCount = 1) && s.2.completed = 0) (by decide)
  simp only [Bool.and_eq_true, decide_eq_true_eq] at test
  obtain ⟨row, stored, counted⟩ := (Option.any_eq_true _ _).mp test.1
  have same := ((claim _ "A-1" s n (by decide) reach).1 row stored).1
  rw [test.2, of_decide_eq_true counted] at same
  contradiction

end CourierPlatform
