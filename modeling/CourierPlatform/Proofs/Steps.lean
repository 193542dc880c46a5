import CourierPlatform.Library.Lists
import CourierPlatform.Proofs.Inversion
import CourierPlatform.Spec.Schedules

/-! The moves of the whole system, and the rule its invariants use for what holds of every
call in flight. -/
namespace CourierPlatform
open Library

inductive Task.Moves (env : Env) (w : World) : Task → Answer → World → Task → Prop where
  | createOrder {call a w' call'} (moved : OrderService.Moves env w call a w' call') :
      Moves env w (.createOrder call) a w' (.createOrder call')
  | bulkItem {bulk index call a w' call'} (moved : OrderService.Moves env w call a w' call') :
      Moves env w (.bulkItem bulk index call) a w' (.bulkItem bulk index call')
  | createBulkOrders {call a w' call'} (moved : BulkOrderService.Moves w call a w' call') :
      Moves env w (.createBulkOrders call) a w' (.createBulkOrders call')
  | trackOrder {call a w' call'} (moved : TrackingService.Moves env w call a w' call') :
      Moves env w (.trackOrder call) a w' (.trackOrder call')
  | cancelOrder {call a w' call'} (moved : CancellationService.Moves env w call a w' call') :
      Moves env w (.cancelOrder call) a w' (.cancelOrder call')
  | reconcile {cycle a w' cycle'} (moved : ReconciliationWorker.Moves env w cycle a w' cycle') :
      Moves env w (.reconcile cycle) a w' (.reconcile cycle')

theorem Task.Moves.of_step {env : Env} {w w' : World} {task task' : Task} {a : Answer}
    (h : task.step env w a = some (w', task')) : Moves env w task a w' task' := by
  cases task <;> simp only [Task.step, Option.map_eq_some_iff, Prod.exists, Prod.map_apply, id_eq,
    Prod.mk.injEq, reduceCtorEq] at h <;> obtain ⟨_, _, moved, rfl, rfl⟩ := h
  case createOrder => exact .createOrder (.of_step moved)
  case bulkItem => exact .bulkItem (.of_step moved)
  case createBulkOrders => exact .createBulkOrders (.of_step moved)
  case trackOrder => exact .trackOrder (.of_step moved)
  case cancelOrder => exact .cancelOrder (.of_step moved)
  case reconcile => exact .reconcile (.of_step moved)

theorem Task.Moves.unsettled {env : Env} {w w' : World} {task task' : Task} {a : Answer}
    (moved : Moves env w task a w' task') : task.settled = false := by
  cases moved with
  | createOrder moved => cases moved <;> first | rfl | assumption
  | bulkItem moved => cases moved <;> first | rfl | assumption
  | createBulkOrders moved => cases moved <;> first | rfl | assumption
  | trackOrder moved => cases moved <;> first | rfl | assumption
  | cancelOrder moved => cases moved <;> first | rfl | assumption
  | reconcile moved => cases moved <;> first | rfl | assumption

inductive State.Moves (env : Env) (s : State) : Label → State → Prop where
  | started (request : Request) :
      Moves env s (.start request) ⟨s.world, s.tasks ++ [request.start env s.world.now]⟩
  | settled {i a task w' task'} (awaiting : s.tasks[i]? = some task)
      (moved : task.Moves env s.world a w' task') :
      Moves env s (.settle i a) ⟨w', s.tasks.set i task'⟩
  | itemStarted {i batchId orders currentIndex orderItem}
      (awaiting : s.tasks[i]? = some (.createBulkOrders (.executing batchId orders currentIndex)))
      (item : orders[currentIndex]? = some orderItem) :
      Moves env s (.startItem i)
        ⟨s.world,
          s.tasks.set i (.createBulkOrders (.executing batchId orders (currentIndex + 1))) ++
            [.bulkItem i currentIndex (OrderService.createOrder orderItem)]⟩
  | collected {i batchId orders currentIndex results}
      (awaiting : s.tasks[i]? = some (.createBulkOrders (.executing batchId orders currentIndex)))
      (all : orders.length ≤ currentIndex) (settled : s.itemResults i orders = some results) :
      Moves env s (.collect i)
        ⟨s.world, s.tasks.set i (.createBulkOrders (.updateBatchRecord batchId orders results))⟩
  | died (dead : List Nat) :
      Moves env s (.crash dead)
        ⟨s.world, s.tasks.mapIdx fun i task => if i ∈ dead ∧ task.isApi then .crashed else task⟩
  | ticked (ms : Nat) :
      Moves env s (.tick ms) ⟨{ s.world with now := s.world.now + ms }, s.tasks⟩

theorem State.Moves.of_next {env : Env} {s t : State} {l : Label}
    (h : (platform env).next s l = some t) : Moves env s l t := by
  change State.next env s l = some t at h
  cases l with
  | start request => cases Option.some.inj h; exact .started request
  | settle i a =>
    simp only [State.next, bind, Option.bind_eq_some_iff, Prod.exists] at h
    obtain ⟨task, awaiting, w', task', moved, result⟩ := h
    cases Option.some.inj result
    exact .settled awaiting (.of_step moved)
  | startItem i =>
    simp only [State.next] at h
    split at h
    next batchId orders currentIndex awaiting =>
      split at h
      next orderItem item =>
        split at h
        · cases Option.some.inj h; exact .itemStarted awaiting item
        · contradiction
      next => contradiction
    next => contradiction
  | collect i =>
    simp only [State.next] at h
    split at h
    next batchId orders currentIndex awaiting =>
      split at h
      next => contradiction
      next all =>
        obtain ⟨results, settled, rfl⟩ := Option.map_eq_some_iff.mp h
        exact .collected awaiting (Nat.le_of_not_lt all) settled
    next => contradiction
  | crash dead => cases Option.some.inj h; exact .died dead
  | tick ms => cases Option.some.inj h; exact .ticked ms

def Task.Quiet : Task → Prop
  | createOrder (.findOne _) => True
  | bulkItem _ _ (.findOne _) => True
  | createBulkOrders _ => True
  | trackOrder (.fetchOrder _) => True
  | cancelOrder (.fetchOrder _ _) => True
  | reconcile (.findAll _) => True
  | crashed => True
  | _ => False

/-- A call that the system itself adds: the state of a bulk call, an item of one, or what is
left of a call whose process died. -/
def Task.Internal : Task → Prop
  | createBulkOrders _ => True
  | bulkItem _ _ (.findOne _) => True
  | crashed => True
  | _ => False

theorem Task.Internal.quiet {task : Task} (h : task.Internal) : task.Quiet := by
  cases task with
  | bulkItem _ _ call => cases call <;> trivial
  | _ => trivial

theorem Request.start_quiet (env : Env) (now : Int) (request : Request) :
    (request.start env now).Quiet := by
  cases request <;> trivial

theorem Task.startedItem_quiet (bulk index : Nat) (orderItem : NormalizedCreateOrderRequest) :
    (Task.bulkItem bulk index (OrderService.createOrder orderItem)).Quiet := trivial

namespace State.Moves

variable {env : Env} {s t : State} {l : Label}

inductive Came (env : Env) (s t : State) (l : Label) (j : Nat) : Task → Prop where
  | kept {task} (before : s.tasks[j]? = some task) (still : ∀ a, l ≠ .settle j a) : Came env s t l j task
  | started (request : Request) (label : l = .start request) (last : j = s.tasks.length) :
      Came env s t l j (request.start env s.world.now)
  | moved {a before task} (label : l = .settle j a) (awaiting : s.tasks[j]? = some before)
      (step : before.Moves env s.world a t.world task) : Came env s t l j task
  | item {i batchId orders currentIndex orderItem}
      (awaiting : s.tasks[i]? = some (.createBulkOrders (.executing batchId orders currentIndex)))
      (label : l = .startItem i) (item : orders[currentIndex]? = some orderItem)
      (last : j = s.tasks.length) :
      Came env s t l j (.bulkItem i currentIndex (OrderService.createOrder orderItem))
  | wentOn {batchId orders currentIndex orderItem}
      (awaiting : s.tasks[j]? = some (.createBulkOrders (.executing batchId orders currentIndex)))
      (label : l = .startItem j) (item : orders[currentIndex]? = some orderItem) :
      Came env s t l j (.createBulkOrders (.executing batchId orders (currentIndex + 1)))
  | collected {batchId orders currentIndex results}
      (awaiting : s.tasks[j]? = some (.createBulkOrders (.executing batchId orders currentIndex))) :
      Came env s t l j (.createBulkOrders (.updateBatchRecord batchId orders results))
  | died {task} (before : s.tasks[j]? = some task) : Came env s t l j .crashed

theorem came {j : Nat} {task : Task} (h : Moves env s l t) (found : t.tasks[j]? = some task) :
    Came env s t l j task := by
  cases h with
  | started request =>
    rcases getElem?_concat_cases found with before | ⟨last, rfl⟩
    · exact .kept before fun _ => Label.noConfusion
    · exact .started request rfl last
  | @settled i a before w' task' awaiting step =>
    rcases getElem?_set_cases found with ⟨other, before⟩ | ⟨rfl, rfl⟩
    · apply Came.kept before
      rintro b same
      cases same
      exact other rfl
    · exact .moved rfl awaiting step
  | @itemStarted i batchId orders currentIndex orderItem awaiting item =>
    rcases getElem?_concat_cases found with before | ⟨last, rfl⟩
    · rcases getElem?_set_cases before with ⟨-, before⟩ | ⟨rfl, rfl⟩
      · exact .kept before fun _ => Label.noConfusion
      · exact .wentOn awaiting rfl item
    · exact .item awaiting rfl item (by simpa using last)
  | collected awaiting all settled =>
    rcases getElem?_set_cases found with ⟨-, before⟩ | ⟨rfl, rfl⟩
    · exact .kept before fun _ => Label.noConfusion
    · exact .collected awaiting
  | died dead =>
    rw [List.getElem?_mapIdx] at found
    obtain ⟨before, here, rfl⟩ := Option.map_eq_some_iff.mp found
    split
    next => exact .died here
    next => exact .kept here fun _ => Label.noConfusion
  | ticked ms => exact .kept found fun _ => Label.noConfusion

theorem stays {j : Nat} {task : Task} (h : Moves env s l t) (here : s.tasks[j]? = some task)
    (notSettled : ∀ a, l ≠ .settle j a) (notStarted : l ≠ .startItem j)
    (notCollected : l ≠ .collect j) :
    t.tasks[j]? = some task ∨
      ∃ dead, l = .crash dead ∧ j ∈ dead ∧ task.isApi = true ∧ t.tasks[j]? = some .crashed := by
  have inside := (List.getElem?_eq_some_iff.mp here).1
  cases h with
  | started request => exact .inl ((List.getElem?_append_left inside).trans here)
  | @settled i a =>
    have other : i ≠ j := by
      rintro rfl
      exact notSettled a rfl
    exact .inl ((List.getElem?_set_ne other).trans here)
  | @itemStarted i =>
    have other : i ≠ j := by
      rintro rfl
      exact notStarted rfl
    refine .inl ?_
    rw [List.getElem?_append_left (by rwa [List.length_set]), List.getElem?_set_ne other, here]
  | @collected i =>
    have other : i ≠ j := by
      rintro rfl
      exact notCollected rfl
    exact .inl ((List.getElem?_set_ne other).trans here)
  | died dead =>
    by_cases dies : j ∈ dead ∧ task.isApi
    · refine .inr ⟨dead, rfl, dies.1, dies.2, ?_⟩
      rw [List.getElem?_mapIdx, here, Option.map_some, if_pos dies]
    · exact .inl (by rw [List.getElem?_mapIdx, here, Option.map_some, if_neg dies])
  | ticked ms => exact .inl here

theorem forall_tasks {J : Task → Prop} (h : Moves env s l t)
    (kept : ∀ (j : Nat) (task : Task), s.tasks[j]? = some task → (∀ a, l ≠ .settle j a) → J task)
    (started : ∀ request, l = .start request → J (request.start env s.world.now))
    (internal : ∀ task : Task, task.Internal → J task)
    (moved : ∀ i a task task', l = .settle i a → s.tasks[i]? = some task →
      task.Moves env s.world a t.world task' → J task') :
    ∀ task ∈ t.tasks, J task := by
  intro task mem
  obtain ⟨j, found⟩ := List.getElem?_of_mem mem
  cases h.came found with
  | kept before still => exact kept j task before still
  | started request label last => exact started request label
  | moved label awaiting step => exact moved j _ _ task label awaiting step
  | item awaiting label item last => exact internal (.bulkItem ..) trivial
  | wentOn awaiting label item => exact internal _ trivial
  | collected awaiting => exact internal _ trivial
  | died before => exact internal _ trivial

theorem forall_tasks_of_quiet {J : Task → Prop} (h : Moves env s l t)
    (kept : ∀ (j : Nat) (task : Task), s.tasks[j]? = some task → (∀ a, l ≠ .settle j a) → J task)
    (quiet : ∀ task : Task, task.Quiet → J task)
    (moved : ∀ i a task task', l = .settle i a → s.tasks[i]? = some task →
      task.Moves env s.world a t.world task' → J task') :
    ∀ task ∈ t.tasks, J task :=
  h.forall_tasks kept (fun request _ => quiet _ (request.start_quiet env s.world.now))
    (fun task internal => quiet task internal.quiet) moved

theorem settled_or_quiet (h : Moves env s l t) :
    (∃ i a task task', l = .settle i a ∧ s.tasks[i]? = some task ∧
      task.Moves env s.world a t.world task' ∧ t.tasks = s.tasks.set i task') ∨
      t.world.courierCalls = s.world.courierCalls ∧ t.world.findOne = s.world.findOne ∧
        ∀ i a, l ≠ .settle i a := by
  cases h with
  | settled awaiting step => exact .inl ⟨_, _, _, _, rfl, awaiting, step, rfl⟩
  | _ => exact .inr ⟨rfl, rfl, fun _ _ => Label.noConfusion⟩

end State.Moves

def Task.dispatches : Task → Bool
  | trackOrder _ => false
  | cancelOrder _ => false
  | _ => true

def Task.tracks : Task → Bool
  | trackOrder _ => true
  | _ => false

section
variable {env : Env} {s t : State} {l : Label}

theorem State.length_le_of_next (moves : Moves env s l t) : s.tasks.length ≤ t.tasks.length := by
  cases moves <;> simp

theorem Task.Moves.dispatches {w w' : World} {task task' : Task} {a : Answer}
    (moved : Moves env w task a w' task') : task'.dispatches = task.dispatches := by
  cases moved <;> rfl

theorem State.dispatches_next (all : ∀ task ∈ s.tasks, task.dispatches = true)
    (allowed : s.dispatchingWithCrashes l = true) (moves : Moves env s l t) :
    ∀ task ∈ t.tasks, task.dispatches = true := by
  refine moves.forall_tasks (fun j task found _ => all task (List.mem_of_getElem? found)) ?_ ?_ ?_
  · rintro request rfl
    cases request <;> first | rfl | exact Bool.noConfusion allowed
  · intro task internal
    cases task <;> first | rfl | exact internal.elim
  · intro i a task task' _ awaiting moved
    rw [moved.dispatches]
    exact all task (List.mem_of_getElem? awaiting)

theorem State.untracked_next (all : ∀ task ∈ s.tasks, task.tracks = false)
    (allowed : l.untracked = true) (moves : Moves env s l t) :
    ∀ task ∈ t.tasks, task.tracks = false := by
  refine moves.forall_tasks (fun j task found _ => all task (List.mem_of_getElem? found)) ?_ ?_ ?_
  · rintro request rfl
    cases request <;> first | rfl | exact Bool.noConfusion allowed
  · intro task internal
    cases task <;> first | rfl | exact internal.elim
  · intro i a task task' _ awaiting moved
    have before := all task (List.mem_of_getElem? awaiting)
    cases moved <;> exact before

end
end CourierPlatform
