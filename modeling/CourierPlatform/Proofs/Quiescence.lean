import CourierPlatform.Proofs.BacklogDone
import CourierPlatform.Proofs.BatchReport
import CourierPlatform.Spec.Quiescence

/-! Without new requests the platform comes to rest, and it rests only when every call has settled. -/
namespace CourierPlatform
open Library

/-! ## What is still to come -/

def Task.polls : Task → Nat
  | trackOrder (.fetchOrder _) => 1
  | trackOrder (.trackShipment ..) => 1
  | _ => 0

def TrackOrder.awaits : TrackOrder → Nat
  | fetchOrder _ => 2
  | trackShipment _ _ _ => 1
  | updateStatus _ reply => 2 * reply.trackingHistory.length + 1
  | findEvent _ _ _ rest => 2 * rest.length + 2
  | createEvent _ _ _ rest => 2 * rest.length + 1
  | _ => 0

def CancelOrder.awaits : CancelOrder → Nat
  | fetchOrder _ _ => 4
  | cancelShipment _ _ _ => 3
  | updateCancelled _ _ _ => 2
  | createEvent _ _ _ => 1
  | _ => 0

def Reconcile.awaits : Reconcile → Nat
  | findAll _ => 4 * ReconciliationWorker.batchLimit + 1
  | updateUnsupported _ _ rest _ => 4 * rest.length + 2
  | createShipment _ _ _ rest _ => 4 * rest.length + 4
  | updateCreated _ _ _ rest _ => 4 * rest.length + 3
  | createEvent _ _ _ rest _ => 4 * rest.length + 2
  | updateCaught _ _ _ rest _ => 4 * rest.length + 1
  | _ => 0

/-- How many operations a call may still await, items that have not begun included. A poll says only
once its timeline is there. -/
def Task.awaits : Task → Nat
  | createOrder call => call.rank
  | bulkItem _ _ call => call.rank
  | createBulkOrders call => call.ahead
  | trackOrder call => call.awaits
  | cancelOrder call => call.awaits
  | reconcile cycle => cycle.awaits
  | crashed => 0

/-- Timelines first: one that arrives brings any number of operations with it. -/
def Below : Nat × Nat → Nat × Nat → Prop := Prod.Lex (· < ·) (· < ·)

theorem below_wellFounded : WellFounded Below := (Prod.lex Nat.lt_wfRel Nat.lt_wfRel).wf

def State.toCome (s : State) : Nat × Nat :=
  (UniqueTable.totalOf Task.polls s.tasks, UniqueTable.totalOf Task.awaits s.tasks)

section
variable {env : Env} {w w' : World} {a : Answer} {task task' : Task}

theorem TrackingService.nextEvent_awaits (order : Order) (reply : NormalizedTrackingResponse)
    (rest : List TrackingEventItem) : (nextEvent order reply rest).awaits ≤ 2 * rest.length := by
  cases rest with
  | nil => exact Nat.le_refl _
  | cons event rest =>
    simp only [nextEvent, TrackOrder.awaits, List.length_cons]
    omega

theorem TrackingService.nextEvent_polls (order : Order) (reply : NormalizedTrackingResponse)
    (rest : List TrackingEventItem) : (Task.trackOrder (nextEvent order reply rest)).polls = 0 := by
  cases rest <;> rfl

theorem TrackingService.updateStatus_polls (order : Order) (reply : NormalizedTrackingResponse) :
    (Task.trackOrder (updateOrderStatusIfChanged order reply)).polls = 0 := by
  unfold updateOrderStatusIfChanged
  split
  · rfl
  · exact nextEvent_polls ..

theorem TrackingService.Moves.falls {call call' : TrackOrder}
    (moved : TrackingService.Moves env w call a w' call') :
    (Task.trackOrder call').polls < (Task.trackOrder call).polls ∨
      (Task.trackOrder call').polls = (Task.trackOrder call).polls ∧ call'.awaits < call.awaits := by
  cases moved with
  | read found awb nonempty registered => exact .inr ⟨rfl, Nat.lt_succ_self _⟩
  | declined why => exact .inl Nat.zero_lt_one
  | tracked =>
    rw [updateStatus_polls]
    exact .inl Nat.zero_lt_one
  | refused => exact .inl Nat.zero_lt_one
  | statusUpdated =>
    rw [nextEvent_polls]
    exact .inr ⟨rfl, Nat.lt_succ_of_le (nextEvent_awaits ..)⟩
  | eventFound recorded =>
    rw [nextEvent_polls]
    exact .inr ⟨rfl, Nat.lt_of_le_of_lt (nextEvent_awaits ..) (by simp [TrackOrder.awaits])⟩
  | eventMissing missing => exact .inr ⟨rfl, Nat.lt_succ_self _⟩
  | eventAdded =>
    rw [nextEvent_polls]
    exact .inr ⟨rfl, Nat.lt_succ_of_le (nextEvent_awaits ..)⟩
  | failed awaits =>
    cases call with
    | fetchOrder => exact .inl Nat.zero_lt_one
    | trackShipment => exact .inl Nat.zero_lt_one
    | resolved => contradiction
    | rejected => contradiction
    | _ => exact .inr ⟨rfl, Nat.zero_lt_succ _⟩

theorem CancellationService.Moves.falls {call call' : CancelOrder}
    (moved : CancellationService.Moves env w call a w' call') : call'.awaits < call.awaits := by
  cases moved with
  | failed awaits => cases call <;> first | contradiction | exact Nat.zero_lt_succ _
  | _ => simp [CancelOrder.awaits]

theorem ReconciliationWorker.nextOrder_awaits (env : Env) (count : Nat) (rest : List Order) :
    (nextOrder env count rest).awaits ≤ 4 * rest.length := by
  cases rest with
  | nil => exact Nat.le_refl _
  | cons order rest =>
    rw [nextOrder, List.length_cons]
    rcases reconcileSingleOrder_cases env order rest count with ⟨adapter, -, same⟩ | same <;>
      · rw [same, Reconcile.awaits]
        omega

theorem ReconciliationWorker.Moves.falls {cycle cycle' : Reconcile}
    (moved : ReconciliationWorker.Moves env w cycle a w' cycle') : cycle'.awaits < cycle.awaits := by
  cases moved with
  | selected result =>
    apply Nat.lt_succ_of_le
    apply Nat.le_trans (nextOrder_awaits ..)
    exact Nat.mul_le_mul_left 4 (length_le_of_isResult result)
  | unsupported => exact Nat.lt_succ_of_lt (Nat.lt_succ_of_le (nextOrder_awaits ..))
  | recovered => exact Nat.lt_succ_of_lt (Nat.lt_succ_of_le (nextOrder_awaits ..))
  | caught => exact Nat.lt_succ_of_le (nextOrder_awaits ..)
  | aborted awaits => cases cycle <;> first | contradiction | exact Nat.zero_lt_succ _
  | _ => simp [Reconcile.awaits]

theorem Task.Moves.falls (moved : Task.Moves env w task a w' task') :
    task'.polls < task.polls ∨ task'.polls = task.polls ∧ task'.awaits < task.awaits := by
  have unsettled := moved.unsettled
  cases moved with
  | createOrder moved => exact .inr ⟨rfl, moved.rank⟩
  | bulkItem moved => exact .inr ⟨rfl, moved.rank⟩
  | createBulkOrders moved =>
    refine .inr ⟨rfl, moved.ahead ?_⟩
    rename_i call call'
    cases call <;> first | contradiction | exact Nat.succ_ne_zero _
  | trackOrder moved => exact moved.falls
  | cancelOrder moved => exact .inr ⟨rfl, moved.falls⟩
  | reconcile moved => exact .inr ⟨rfl, moved.falls⟩

end

section
variable {env : Env} {s t : State} {l : Label} {task task' : Task} {i : Nat}

theorem State.toCome_settle {w : World} (found : s.tasks[i]? = some task)
    (falls : task'.polls < task.polls ∨ task'.polls = task.polls ∧ task'.awaits < task.awaits) :
    Below (State.toCome ⟨w, s.tasks.set i task'⟩) s.toCome := by
  have polls := UniqueTable.totalOf_set Task.polls task' found
  have awaits := UniqueTable.totalOf_set Task.awaits task' found
  refine Prod.lex_def.mpr ?_
  dsimp only [toCome]
  omega

theorem State.Moves.falls (moves : State.Moves env s l t) (proceeds : l.proceeds = true) :
    Below t.toCome s.toCome := by
  cases moves with
  | started request => contradiction
  | settled awaiting moved => exact State.toCome_settle awaiting moved.falls
  | @itemStarted i batchId orders currentIndex orderItem awaiting item =>
    have bound := (List.getElem?_eq_some_iff.mp item).1
    have polls := UniqueTable.totalOf_set Task.polls
      (.createBulkOrders (.executing batchId orders (currentIndex + 1))) awaiting
    have awaits := UniqueTable.totalOf_set Task.awaits
      (.createBulkOrders (.executing batchId orders (currentIndex + 1))) awaiting
    refine Prod.lex_def.mpr (.inr ?_)
    dsimp only [toCome]
    simp only [UniqueTable.totalOf_append, Task.polls, Task.awaits, BulkOrder.ahead,
      OrderService.createOrder, CreateOrder.rank] at polls awaits ⊢
    omega
  | collected awaiting all settled =>
    refine State.toCome_settle awaiting (.inr ⟨rfl, ?_⟩)
    simp only [Task.awaits, BulkOrder.ahead]
    omega
  | died dead => contradiction
  | ticked ms => contradiction

theorem State.Moves.toCome_passes (moves : State.Moves env s l t) (passes : l.passes = true) :
    t.toCome = s.toCome ∨ Below t.toCome s.toCome := by
  cases moves with
  | died dead =>
    have polls := UniqueTable.totalOf_mapIdx_le Task.polls s.tasks
      (fun i task => if i ∈ dead ∧ task.isApi then .crashed else task) (by
        intro j task
        split
        · exact Nat.zero_le _
        · exact Nat.le_refl _)
    have awaits := UniqueTable.totalOf_mapIdx_le Task.awaits s.tasks
      (fun i task => if i ∈ dead ∧ task.isApi then .crashed else task) (by
        intro j task
        split
        · exact Nat.zero_le _
        · exact Nat.le_refl _)
    rw [Below, Prod.lex_def, Prod.ext_iff]
    dsimp only [toCome]
    omega
  | ticked ms => exact .inl rfl
  | _ => contradiction

/-- Without new requests only a bounded number of awaits is left, however the calls interleave and
whatever they are answered. -/
theorem platform_comes_to_rest (run : EndlessRun (platform env))
    (noRequests : ∀ n, (run.label n).begins = false) :
    ∃ N, ∀ n ≥ N, (run.label n).passes = true := by
  refine run.comes_to_rest below_wellFounded State.toCome (fun n => (run.label n).passes = true) 0 ?_ ?_
  · intro n _ moving
    refine (State.Moves.of_next (run.step n)).falls ?_
    simp [Label.proceeds, noRequests n, Bool.eq_false_iff.mpr moving]
  · intro n _ idle
    exact (State.Moves.of_next (run.step n)).toCome_passes idle

end

def refusedRun : EndlessRun production where
  state
    | 0 => ⟨.empty, [.createOrder (.findOne (parcel "A-1" "mock"))]⟩
    | n + 1 => ⟨{ World.empty with now := n }, [.createOrder (.rejected (.error "timeout"))]⟩
  label
    | 0 => .settle 0 (.dbError (.error "timeout"))
    | _ + 1 => .tick 1
  step n := by cases n <;> rfl

theorem platform_comes_to_rest_refused : ∃ N, ∀ n ≥ N, (refusedRun.label n).passes = true :=
  platform_comes_to_rest refusedRun fun n => by cases n <;> rfl

/-! ## No call is left behind -/

section
variable {env : Env} {s t : State} {l : Label} {task : Task} {i k : Nat}

def State.Pooled (s : State) : Prop :=
  ∀ (i : Nat) (batchId : String) (orders : List NormalizedCreateOrderRequest) (currentIndex : Nat),
    s.tasks[i]? = some (.createBulkOrders (.executing batchId orders currentIndex)) →
      currentIndex ≤ orders.length ∧ ∀ k < currentIndex, ∃ call, .bulkItem i k call ∈ s.tasks

theorem State.Moves.keeps_item (moves : State.Moves env s l t) {call : CreateOrder}
    (mem : .bulkItem i k call ∈ s.tasks) :
    (∃ call', .bulkItem i k call' ∈ t.tasks) ∨
      ∃ dead j, l = .crash dead ∧ s.tasks[j]? = some (.bulkItem i k call) ∧ j ∈ dead := by
  obtain ⟨j, found⟩ := List.getElem?_of_mem mem
  by_cases own : ∃ a, l = .settle j a
  · obtain ⟨a, rfl⟩ := own
    cases moves with
    | settled awaiting moved =>
      cases found.symm.trans awaiting
      cases moved with
      | bulkItem moved =>
        exact .inl ⟨_, List.mem_of_getElem? (getElem?_set_of_some awaiting)⟩
  · by_cases turned : l = .startItem j ∨ l = .collect j
    · rcases turned with rfl | rfl
      · cases moves with
        | itemStarted awaiting item => cases found.symm.trans awaiting
      · cases moves with
        | collected awaiting all settled => cases found.symm.trans awaiting
    · obtain ⟨notStarted, notCollected⟩ := not_or.mp turned
      rcases moves.stays found (fun a same => own ⟨a, same⟩) notStarted notCollected with
        same | ⟨dead, label, dies, -, -⟩
      · exact .inl ⟨call, List.mem_of_getElem? same⟩
      · exact .inr ⟨dead, j, label, found, dies⟩

theorem State.wholeProcesses_crash {dead : List Nat} (whole : s.wholeProcesses (.crash dead) = true)
    {j : Nat} {call : CreateOrder} (found : s.tasks[j]? = some (.bulkItem i k call)) :
    j ∈ dead ↔ i ∈ dead := by
  have inside := (List.getElem?_eq_some_iff.mp found).1
  have here := List.all_eq_true.mp whole j (List.mem_range.mpr inside)
  simpa [found, Task.bulk?] using here

theorem State.Moves.pool_keeps (moves : State.Moves env s l t) (whole : s.wholeProcesses l = true)
    {bulk bulk' : BulkOrder} (before : s.tasks[i]? = some (.createBulkOrders bulk))
    (after : t.tasks[i]? = some (.createBulkOrders bulk'))
    (begun : ∃ call, .bulkItem i k call ∈ s.tasks) : ∃ call, .bulkItem i k call ∈ t.tasks := by
  obtain ⟨call, mem⟩ := begun
  rcases moves.keeps_item mem with kept | ⟨dead, j, rfl, found, dies⟩
  · exact kept
  · have pool := (wholeProcesses_crash whole found).mp dies
    cases moves with
    | died =>
      simp only [List.getElem?_mapIdx, before, Option.map_some, pool, Task.isApi, and_self, if_true,
        Option.some.injEq, reduceCtorEq] at after

theorem BulkOrderService.Moves.executes {w w' : World} {call : BulkOrder} {a : Answer}
    {batchId : String} {orders : List NormalizedCreateOrderRequest} {currentIndex : Nat}
    (moved : BulkOrderService.Moves w call a w' (.executing batchId orders currentIndex)) :
    currentIndex = 0 := by
  cases moved <;> rfl

theorem State.Pooled.next (h : s.Pooled) (whole : s.wholeProcesses l = true)
    (moves : State.Moves env s l t) : t.Pooled := by
  intro i batchId orders currentIndex found
  generalize here : Task.createBulkOrders (.executing batchId orders currentIndex) = task at found
  cases moves.came found with
  | kept before still =>
    obtain ⟨most, begun⟩ := h i batchId orders currentIndex (here ▸ before)
    exact ⟨most, fun k earlier => moves.pool_keeps whole (here ▸ before) (here ▸ found) (begun k earlier)⟩
  | started request label last => cases request <;> cases here
  | moved label awaiting step =>
    cases here
    cases step with
    | createBulkOrders moved =>
      obtain rfl := moved.executes
      exact ⟨Nat.zero_le _, fun k none => absurd none (Nat.not_lt_zero k)⟩
  | item awaiting label item last => contradiction
  | @wentOn id requests index orderItem awaiting label item =>
    cases here
    obtain ⟨-, begun⟩ := h i _ _ _ awaiting
    refine ⟨(List.getElem?_eq_some_iff.mp item).1, fun k earlier => ?_⟩
    rcases Nat.lt_succ_iff_lt_or_eq.mp earlier with before | rfl
    · exact moves.pool_keeps whole awaiting found (begun k before)
    · subst label
      cases moves with
      | itemStarted awaiting' item' =>
        cases awaiting.symm.trans awaiting'
        exact ⟨_, List.mem_append_right _ (List.mem_singleton_self _)⟩
  | collected awaiting => cases here
  | died before => contradiction

theorem State.Pooled.collects (h : s.Pooled) {batchId : String}
    {orders : List NormalizedCreateOrderRequest}
    (found : s.tasks[i]? = some (.createBulkOrders (.executing batchId orders orders.length)))
    (settled : ∀ (k : Nat) (call : CreateOrder), .bulkItem i k call ∈ s.tasks → call.settled = true) :
    ∃ results, s.itemResults i orders = some results := by
  apply mapM_isSome
  intro entry mem
  obtain ⟨k, there⟩ := List.getElem?_of_mem mem
  rw [List.getElem?_zipIdx] at there
  obtain ⟨orderItem, here, rfl⟩ := Option.map_eq_some_iff.mp there
  obtain ⟨call, begun⟩ := (h i _ _ _ found).2 k (List.getElem?_eq_some_iff.mp here).1
  rw [List.findSome?_isSome_iff]
  refine ⟨_, begun, ?_⟩
  rw [Nat.zero_add, Task.itemResult?, if_pos ⟨rfl, rfl⟩]
  exact itemResult_isSome (settled k call begun)

theorem Task.step_answered (env : Env) (w : World) (unsettled : task.settled = false)
    (operation : ∀ batchId orders currentIndex,
      task ≠ .createBulkOrders (.executing batchId orders currentIndex)) :
    ∃ a, (∀ error, a ≠ .dbError error) ∧ ∃ next, task.step env w a = some next := by
  let refusal : Answer := .refused (.error "")
  have books (call : CreateOrder) (unsettled : call.settled = false) :
      ∃ a, (∀ error, a ≠ .dbError error) ∧
        ∃ w' call', OrderService.step env w call a = some (w', call') := by
    refine ⟨call.settles fun _ => .error (.error ""), fun error => ?_,
      OrderService.step_settles unsettled⟩
    cases call <;> exact Answer.noConfusion
  cases task with
  | createOrder call =>
    obtain ⟨a, answered, w', call', stepped⟩ := books call unsettled
    exact ⟨a, answered, (w', .createOrder call'), by simp [Task.step, stepped]⟩
  | bulkItem bulk index call =>
    obtain ⟨a, answered, w', call', stepped⟩ := books call unsettled
    exact ⟨a, answered, (w', .bulkItem bulk index call'), by simp [Task.step, stepped]⟩
  | createBulkOrders call =>
    cases call with
    | executing batchId orders currentIndex => exact absurd rfl (operation batchId orders currentIndex)
    | resolved => contradiction
    | rejected => contradiction
    | _ => exact ⟨.ok, fun _ => Answer.noConfusion, _, rfl⟩
  | trackOrder call =>
    cases call with
    | trackShipment => exact ⟨refusal, fun _ => Answer.noConfusion, _, rfl⟩
    | resolved => contradiction
    | rejected => contradiction
    | _ => exact ⟨.ok, fun _ => Answer.noConfusion, _, rfl⟩
  | cancelOrder call =>
    cases call with
    | cancelShipment => exact ⟨refusal, fun _ => Answer.noConfusion, _, rfl⟩
    | resolved => contradiction
    | rejected => contradiction
    | _ => exact ⟨.ok, fun _ => Answer.noConfusion, _, rfl⟩
  | reconcile cycle =>
    let around : Surroundings env := .firstRows (.error (.error ""))
    obtain ⟨w', cycle', stepped⟩ := around.step_answer (s := .init w) unsettled
    exact ⟨_, around.answer_ne_dbError, (w', .reconcile cycle'), by
      simp only [Task.step]
      exact (congrArg _ stepped).trans rfl⟩
  | crashed => contradiction

theorem State.Pooled.works (h : s.Pooled) (env : Env) (found : s.tasks[i]? = some task)
    (unsettled : task.settled = false) :
    ∃ l t, s.ownStep i l = true ∧ l.proceeds = true ∧ l.faultless = true ∧
      (platform env).next s l = some t := by
  have settles (j : Nat) (call : Task) (here : s.tasks[j]? = some call) (awaits : call.settled = false)
      (own : s.ownCall i j = true) (operation : ∀ batchId orders currentIndex,
        call ≠ .createBulkOrders (.executing batchId orders currentIndex)) :
      ∃ l t, s.ownStep i l = true ∧ l.proceeds = true ∧ l.faultless = true ∧
        (platform env).next s l = some t := by
    obtain ⟨a, answered, ⟨w', call'⟩, stepped⟩ := call.step_answered env s.world awaits operation
    refine ⟨.settle j a, ⟨w', s.tasks.set j call'⟩, own, rfl, ?_, ?_⟩
    · cases a with
      | dbError error => exact absurd rfl (answered error)
      | _ => rfl
    · simp [platform, State.next, here, stepped]
  by_cases pool : ∃ batchId orders currentIndex,
      task = .createBulkOrders (.executing batchId orders currentIndex)
  · obtain ⟨batchId, orders, currentIndex, rfl⟩ := pool
    by_cases pending : ∃ k call, .bulkItem i k call ∈ s.tasks ∧ call.settled = false
    · obtain ⟨k, call, mem, awaits⟩ := pending
      obtain ⟨j, here⟩ := List.getElem?_of_mem mem
      exact settles j _ here awaits (by simp [ownCall, here, Task.itemOf]) fun _ _ _ => Task.noConfusion
    · have settled (k : Nat) (call : CreateOrder) (mem : .bulkItem i k call ∈ s.tasks) :
          call.settled = true := by
        by_contra awaits
        exact pending ⟨k, call, mem, Bool.eq_false_iff.mpr awaits⟩
      obtain ⟨most, -⟩ := h i batchId orders currentIndex found
      cases item : orders[currentIndex]? with
      | some orderItem =>
        -- no item is pending, so the pool has a free worker
        have free : s.tasks.countP (Task.pendingItem i) = 0 := by
          apply List.countP_eq_zero.mpr
          intro task mem waits
          cases task with
          | bulkItem other index call =>
            simp only [Task.pendingItem, Bool.and_eq_true, decide_eq_true_eq] at waits
            obtain ⟨rfl, awaits⟩ := waits
            simp [settled index call mem] at awaits
          | _ => contradiction
        have worker := BulkOrderService.effectiveLimit_pos env.bulkConcurrencyLimit orders.length
        refine ⟨.startItem i, ⟨s.world, s.tasks.set i
          (.createBulkOrders (.executing batchId orders (currentIndex + 1))) ++
            [.bulkItem i currentIndex (OrderService.createOrder orderItem)]⟩, ?_, rfl, rfl, ?_⟩
        · simp [ownStep]
        · simp [platform, State.next, found, item, free, worker]
      | none =>
        have all := List.getElem?_eq_none_iff.mp item
        obtain rfl : currentIndex = orders.length := Nat.le_antisymm most all
        obtain ⟨results, collected⟩ := h.collects found settled
        refine ⟨.collect i, ⟨s.world, s.tasks.set i
          (.createBulkOrders (.updateBatchRecord batchId orders results))⟩, ?_, rfl, rfl, ?_⟩
        · simp [ownStep]
        · simp [platform, State.next, found, collected]
  · exact settles i task found unsettled (by simp [ownCall]) fun batchId orders currentIndex same =>
      pool ⟨batchId, orders, currentIndex, same⟩

theorem State.Pooled.proceeds (h : s.Pooled) (inFlight : s.idle = false) :
    ∃ l t, l.proceeds = true ∧ l.faultless = true ∧ (platform env).next s l = some t := by
  obtain ⟨task, mem, unsettled⟩ := List.all_eq_false.mp inFlight
  obtain ⟨i, found⟩ := List.getElem?_of_mem mem
  obtain ⟨l, t, -, step⟩ := h.works env found (Bool.eq_false_iff.mpr unsettled)
  exact ⟨l, t, step⟩

theorem State.pooled_init (w : World) : (State.init w).Pooled := by
  intro i batchId orders currentIndex found
  contradiction

/-- In every reachable state all calls in flight can be brought to an end without a new request and
without a failing database operation; none is left waiting for another. -/
theorem platform_drains {w : World}
    (reach : (platform env).Reaches (fun s l => s.wholeProcesses l = true) (.init w) s) :
    ∃ t, (platform env).Reaches (fun _ l => l.proceeds = true ∧ l.faultless = true) s t ∧
      t.idle = true := by
  have pooled : s.Pooled := reach.invariant State.Pooled (State.pooled_init w)
    fun a l b h whole moved => h.next whole (.of_next moved)
  obtain ⟨t, drained, -, idle⟩ := @Machine.Reaches.exists_final_of_falls _ _ (platform env) _ _
    (fun _ l => l.proceeds = true ∧ l.faultless = true)
    below_wellFounded State.toCome State.Pooled (fun t => t.idle = true) (by
      intro a pooled inFlight
      obtain ⟨l, b, proceeds, faultless, moved⟩ := pooled.proceeds (Bool.eq_false_iff.mpr inFlight)
      have moves := State.Moves.of_next moved
      have whole : a.wholeProcesses l = true := by
        cases l <;> first | rfl | contradiction
      exact ⟨l, b, ⟨proceeds, faultless⟩, moved, pooled.next whole moves, moves.falls proceeds⟩)
    s pooled
  exact ⟨t, drained, idle⟩

end

theorem platform_drains_batch :
    ∃ s : State, s.idle = false ∧ s.tasks.length = 3 ∧
      ∃ t, production.Reaches (fun _ l => l.proceeds = true ∧ l.faultless = true) s t ∧
        t.idle = true := by
  obtain ⟨s, reach, test⟩ := Machine.Reaches.of_run_any production
    (fun s l => s.wholeProcesses l = true) (.init .empty)
    [.start (.createBulkOrders [parcel "A-1" "mock", parcel "A-2" "mock"] "B-1"), .settle 0 .ok,
      .settle 0 .ok, .startItem 0, .start .reconcilePendingOrders, .crash [7]]
    (fun s => !s.idle && s.tasks.length = 3) (by decide)
  simp only [Bool.and_eq_true, Bool.not_eq_eq_eq_not, Bool.not_true, decide_eq_true_eq] at test
  exact ⟨s, test.1, test.2, platform_drains reach⟩

end CourierPlatform
