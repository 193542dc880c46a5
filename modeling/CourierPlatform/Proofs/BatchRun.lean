import CourierPlatform.Proofs.Toward

/-! A run of a batch call: the state of the call itself, beside the items it has started, and its way
to the response. -/
namespace CourierPlatform
open Library OrderService

section
variable {env : Env} {outcomes : Outcomes} {w w' : World} {s t : State} {l : Label} {a : Answer}
  {orders : List NormalizedCreateOrderRequest} {k : Nat} {task task' : Task}
  {call : CreateOrder} {orderData : NormalizedCreateOrderRequest}

structure State.Reported (s : State) (orders : List NormalizedCreateOrderRequest)
    (results : List BulkOrderItemResult) : Prop where
  length : results.length = orders.length
  result : ∀ (k : Nat) (orderData : NormalizedCreateOrderRequest), orders[k]? = some orderData →
    results[k]? = BulkOrderService.itemResult orderData (s.callAt (k + 1) orderData)

def BulkOrder.Ran (s : State) (orders : List NormalizedCreateOrderRequest) : BulkOrder → Prop
  | initBatchRecord _ requests => requests = orders ∧ s.tasks.length = 1
  | prePersistAll _ requests => requests = orders ∧ s.tasks.length = 1
  | executing _ requests currentIndex => requests = orders ∧ s.tasks.length = currentIndex + 1
  | updateBatchRecord _ requests results => requests = orders ∧ s.Reported orders results
  | resolved response => s.Reported orders response.results
  | rejected _ => False

structure State.BatchRun (env : Env) (outcomes : Outcomes) (w : World)
    (orders : List NormalizedCreateOrderRequest) (s : State) : Prop where
  toward : s.Toward env outcomes w orders 1
  items : ∀ (k : Nat) (task : Task), s.tasks[k + 1]? = some task → ∃ call, task = .bulkItem 0 k call
  bulk : ∃ bulk, s.tasks[0]? = some (.createBulkOrders bulk) ∧ bulk.Ran s orders

/-- A batch call, and behind it the calls of the items it has started, in the order of the list. -/
structure State.BatchShape (orders : List NormalizedCreateOrderRequest) (s : State) : Prop where
  items : ∀ (k : Nat) (task : Task), s.tasks[k + 1]? = some task →
    (∃ call, task = .bulkItem 0 k call) ∧ k < orders.length
  bulk : ∃ bulk, s.tasks[0]? = some (.createBulkOrders bulk) ∧ bulk.Ran s orders

/-- No other request arrives, no process dies and no database operation fails but the bulk insert. -/
def State.onlyBatch (s : State) : Label → Bool
  | .start _ => false
  | .settle i (.dbError _) => s.tasks[i]?.any Task.bulkInserts
  | .crash _ => false
  | _ => true

theorem State.onlyBatch_of_proceeds (h : s.proceeds outcomes l = true) : s.onlyBatch l = true := by
  cases l with
  | settle i a => cases a <;> first | rfl | exact h
  | _ => exact h

theorem State.BatchRun.shape (h : s.BatchRun env outcomes w orders) : s.BatchShape orders := by
  refine ⟨fun k task found => ⟨h.items k task found, ?_⟩, h.bulk⟩
  obtain ⟨orderData, call, item, -⟩ := h.toward.calls k task found
  exact (List.getElem?_eq_some_iff.mp item).1

theorem itemResult_settled {result : BulkOrderItemResult}
    (h : BulkOrderService.itemResult orderData call = some result) : call.settled = true := by
  cases call <;> first | rfl | contradiction

theorem OrderService.step_of_settled (settled : call.settled = true) :
    OrderService.step env w call a = none := by
  cases call <;> first | contradiction | (cases a <;> rfl)

theorem State.findSome?_itemResult {bulk : BulkOrder}
    (items : ∀ (k : Nat) (task : Task), s.tasks[k + 1]? = some task →
      ∃ call, task = .bulkItem 0 k call)
    (head : s.tasks[0]? = some (.createBulkOrders bulk)) :
    s.tasks.findSome? (Task.itemResult? 0 k orderData) =
      BulkOrderService.itemResult orderData (s.callAt (k + 1) orderData) := by
  have others (j : Nat) (task : Task) (found : s.tasks[j]? = some task) (other : j ≠ k + 1) :
      task.itemResult? 0 k orderData = none := by
    cases j with
    | zero =>
      cases head.symm.trans found
      rfl
    | succ j =>
      obtain ⟨call, rfl⟩ := items j task found
      rw [Task.itemResult?, if_neg]
      rintro ⟨-, rfl⟩
      exact other rfl
  cases here : s.tasks[k + 1]? with
  | none =>
    have unstarted : s.callAt (k + 1) orderData = createOrder orderData := by
      rw [State.callAt, here]
      rfl
    rw [unstarted]
    refine List.findSome?_eq_none_iff.mpr fun task mem => ?_
    obtain ⟨j, found⟩ := List.getElem?_of_mem mem
    refine others j task found ?_
    rintro rfl
    cases here.symm.trans found
  | some task =>
    obtain ⟨call, rfl⟩ := items k task here
    rw [findSome?_of_unique here others, State.callAt_of_runs here .item, Task.itemResult?,
      if_pos ⟨rfl, rfl⟩]

theorem State.itemResults_eq_some {bulk : BulkOrder} {results : List BulkOrderItemResult}
    (items : ∀ (k : Nat) (task : Task), s.tasks[k + 1]? = some task →
      ∃ call, task = .bulkItem 0 k call)
    (head : s.tasks[0]? = some (.createBulkOrders bulk)) :
    s.itemResults 0 orders = some results ↔ s.Reported orders results := by
  have zipped (j : Nat) : orders.zipIdx[j]? = orders[j]?.map fun item => (item, j) := by
    rw [List.getElem?_zipIdx, Nat.zero_add]
  rw [State.itemResults, mapM_option]
  constructor
  · rintro ⟨length, each⟩
    refine ⟨by rw [length, List.length_zipIdx], fun k orderData item => ?_⟩
    rw [each k (orderData, k) (by rw [zipped, item]; rfl), findSome?_itemResult items head]
  · rintro ⟨length, each⟩
    refine ⟨by rw [length, List.length_zipIdx], fun k item found => ?_⟩
    rw [zipped] at found
    obtain ⟨orderData, here, rfl⟩ := Option.map_eq_some_iff.mp found
    rw [each k orderData here, findSome?_itemResult items head]

theorem State.Reported.congr {results : List BulkOrderItemResult} (h : s.Reported orders results)
    (tasks : ∀ i, 1 ≤ i → t.tasks[i]? = s.tasks[i]?) : t.Reported orders results := by
  refine ⟨h.length, fun k orderData item => ?_⟩
  rw [h.result k orderData item, State.callAt, State.callAt, tasks _ (Nat.le_add_left ..)]

theorem State.Reported.settled {results : List BulkOrderItemResult}
    (h : s.Reported orders results) (item : orders[k]? = some orderData)
    (found : s.tasks[k + 1]? = some task) (runs : task.Runs call) : call.settled = true := by
  have bound : k < results.length := h.length ▸ (List.getElem?_eq_some_iff.mp item).1
  have result := h.result k orderData item
  rw [List.getElem?_eq_getElem bound, State.callAt_of_runs found runs] at result
  exact itemResult_settled result.symm

/-- The bulk insert adds the rows that are missing, and no call notices. -/
theorem State.Toward.prePersisted {bulk : BulkOrder}
    (h : s.Toward env outcomes w orders 1) (batchId : String) (distinct : (orders.map (·.orderId)).Nodup)
    (unstarted : s.tasks.length = 1) :
    State.Toward env outcomes w orders 1
      ⟨s.world.bulkCreate (orders.map (BulkOrderService.batchRecord s.world.now)),
        s.tasks.set 0 (.createBulkOrders bulk)⟩ := by
  have absent (tasks : List Task) (length : tasks.length = 1) (k : Nat) : tasks[k + 1]? = none :=
    List.getElem?_eq_none (by omega)
  have length : (s.tasks.set 0 (.createBulkOrders bulk)).length = 1 := by
    rw [List.length_set, unstarted]
  refine ⟨fun k task found => ?_, fun k orderData item => ?_, fun x outside => ?_⟩
  · cases (absent _ length k).symm.trans found
  · have inserted := findOne_batch (w := s.world) (filter_of_distinct distinct item)
    have before := h.comes k orderData item
    rw [callAt, absent _ unstarted] at before
    rw [callAt, absent _ length, World.single, inserted]
    exact SingleOrder.complete_inserted.trans before
  · have moved : BulkOrderService.Moves s.world (.prePersistAll batchId orders) .ok
        (s.world.bulkCreate (orders.map (BulkOrderService.batchRecord s.world.now)))
        (.executing batchId orders 0) := .prePersisted
    have untouched : x ∉ (Task.createBulkOrders (.prePersistAll batchId orders)).touches := by
      simpa [Task.touches, Task.named, Task.instances, BulkOrder.toStart] using outside
    have step : Task.Moves env s.world (.createBulkOrders (.prePersistAll batchId orders)) .ok _ _ :=
      .createBulkOrders moved
    have frame := step.findOne untouched
    exact ⟨frame.trans (h.others x outside).1, (h.others x outside).2⟩

namespace State.BatchShape

theorem settleHead {bulk bulk' : BulkOrder} (h : s.BatchShape orders)
    (only : s.onlyBatch (.settle 0 a) = true)
    (head : s.tasks[0]? = some (.createBulkOrders bulk)) (ran : bulk.Ran s orders)
    (stepped : BulkOrderService.step s.world bulk a = some (w', bulk')) :
    BatchShape orders ⟨w', s.tasks.set 0 (.createBulkOrders bulk')⟩ := by
  have kept (i : Nat) (positive : 1 ≤ i) :
      (s.tasks.set 0 (.createBulkOrders bulk'))[i]? = s.tasks[i]? :=
    List.getElem?_set_ne (by omega)
  have length : (s.tasks.set 0 (.createBulkOrders bulk')).length = s.tasks.length :=
    List.length_set
  refine ⟨fun k task found => h.items k task (kept _ (Nat.le_add_left ..) ▸ found), bulk',
    getElem?_set_of_some head, ?_⟩
  cases BulkOrderService.Moves.of_step stepped with
  | batchCreated => exact ⟨ran.1, length.trans ran.2⟩
  | prePersisted => exact ⟨ran.1, length.trans ran.2⟩
  | notPrePersisted => exact ⟨ran.1, length.trans ran.2⟩
  | summarized => exact ran.2.congr kept
  | @failed _ error awaits =>
    -- only the bulk insert may fail, and its failure is no end of the call
    cases bulk with
    | prePersistAll batchId requests => cases stepped
    | executing batchId requests currentIndex => cases stepped
    | _ => simp [State.onlyBatch, head, Task.bulkInserts] at only

theorem startItem {batchId : String} {currentIndex : Nat} (h : s.BatchShape orders)
    (head : s.tasks[0]? = some (.createBulkOrders (.executing batchId orders currentIndex)))
    (next : s.tasks.length = currentIndex + 1) (item : orders[currentIndex]? = some orderData) :
    BatchShape orders
      ⟨s.world, s.tasks.set 0 (.createBulkOrders (.executing batchId orders (currentIndex + 1))) ++
        [.bulkItem 0 currentIndex (createOrder orderData)]⟩ := by
  have bound := (List.getElem?_eq_some_iff.mp head).1
  have kept (i : Nat) (positive : 1 ≤ i) :
      (s.tasks.set 0 (.createBulkOrders (.executing batchId orders (currentIndex + 1))))[i]? =
        s.tasks[i]? := List.getElem?_set_ne (by omega)
  refine ⟨fun k task found => ?_, .executing batchId orders (currentIndex + 1), ?_, rfl, ?_⟩
  · rcases getElem?_concat_cases found with before | ⟨last, rfl⟩
    · exact h.items k task (kept _ (Nat.le_add_left ..) ▸ before)
    · rw [List.length_set] at last
      obtain rfl : k = currentIndex := by omega
      exact ⟨⟨_, rfl⟩, (List.getElem?_eq_some_iff.mp item).1⟩
  · rw [List.getElem?_append_left (by rwa [List.length_set]), List.getElem?_set_self bound]
  · rw [List.length_append, List.length_set, next]
    rfl

theorem settleItem (h : s.BatchShape orders) (found : s.tasks[k + 1]? = some task)
    (stepped : task.step env s.world a = some (w', task')) :
    BatchShape orders ⟨w', s.tasks.set (k + 1) task'⟩ := by
  obtain ⟨⟨call, rfl⟩, inside⟩ := h.items k task found
  obtain ⟨call', runs, moved⟩ := Task.Runs.item.step stepped
  obtain ⟨bulk, head, ran⟩ := h.bulk
  have same : task' = .bulkItem 0 k call' := by
    obtain ⟨⟨_, _⟩, -, same⟩ := Option.map_eq_some_iff.mp stepped
    cases same
    cases runs
    rfl
  have unreported (results : List BulkOrderItemResult) (reported : s.Reported orders results) :
      False := by
    have item := List.getElem?_eq_getElem inside
    rw [OrderService.step_of_settled (reported.settled item found .item)] at moved
    contradiction
  refine ⟨fun j other there => ?_, bulk, ?_, ?_⟩
  · rcases getElem?_set_cases there with ⟨-, before⟩ | ⟨here, rfl⟩
    · exact h.items j other before
    · obtain rfl : j = k := by omega
      exact ⟨⟨call', same⟩, inside⟩
  · rw [List.getElem?_set_ne (Nat.succ_ne_zero k), head]
  · cases bulk with
    | initBatchRecord batchId requests => exact ⟨ran.1, List.length_set.trans ran.2⟩
    | prePersistAll batchId requests => exact ⟨ran.1, List.length_set.trans ran.2⟩
    | executing batchId requests currentIndex => exact ⟨ran.1, List.length_set.trans ran.2⟩
    | updateBatchRecord batchId requests results => exact (unreported results ran.2).elim
    | resolved response => exact (unreported response.results ran).elim
    | rejected error => exact ran.elim

theorem notBulk (h : s.BatchShape orders) {other : BulkOrder} :
    s.tasks[k + 1]? ≠ some (.createBulkOrders other) := by
  intro found
  obtain ⟨⟨call, same⟩, -⟩ := h.items k _ found
  cases same

theorem next (h : s.BatchShape orders) (only : s.onlyBatch l = true)
    (moved : (platform env).next s l = some t) : t.BatchShape orders := by
  have moves := State.Moves.of_next moved
  obtain ⟨bulk, head, ran⟩ := h.bulk
  cases moves with
  | started request => contradiction
  | died dead => contradiction
  | ticked ms =>
    refine ⟨h.items, bulk, head, ?_⟩
    cases bulk with
    | updateBatchRecord batchId requests results => exact ⟨ran.1, ran.2.congr fun _ _ => rfl⟩
    | resolved response => exact State.Reported.congr ran fun _ _ => rfl
    | _ => exact ran
  | @settled i a task w' task' awaiting step =>
    obtain ⟨task, w', task', found, stepped, result⟩ := State.next_settle moved
    rw [result]
    cases i with
    | zero =>
      cases head.symm.trans found
      obtain ⟨⟨w'', bulk'⟩, advanced, same⟩ := Option.map_eq_some_iff.mp stepped
      cases same
      exact h.settleHead only head ran advanced
    | succ k => exact h.settleItem found stepped
  | @itemStarted i batchId requests currentIndex orderItem awaiting item =>
    cases i with
    | zero =>
      cases head.symm.trans awaiting
      obtain ⟨rfl, next⟩ := ran
      exact h.startItem head next item
    | succ k => exact absurd awaiting h.notBulk
  | @collected i batchId requests currentIndex results awaiting all settled =>
    cases i with
    | zero =>
      cases head.symm.trans awaiting
      obtain ⟨rfl, -⟩ := ran
      have kept (i : Nat) (positive : 1 ≤ i) :
          (s.tasks.set 0 (.createBulkOrders
            (.updateBatchRecord batchId requests results)))[i]? = s.tasks[i]? :=
        List.getElem?_set_ne (by omega)
      have items (k : Nat) (task : Task) (found : s.tasks[k + 1]? = some task) :
          ∃ call, task = .bulkItem 0 k call := (h.items k task found).1
      refine ⟨fun k task found => ?_, _,
        getElem?_set_of_some head, rfl, ?_⟩
      · exact h.items k task (kept _ (Nat.le_add_left ..) ▸ found)
      · exact ((State.itemResults_eq_some items head).mp settled).congr kept
    | succ k => exact absurd awaiting h.notBulk

theorem of_started {batchId : String}
    (began : (platform env).next (.init w) (.start (.createBulkOrders orders batchId)) = some s) :
    s.BatchShape orders := by
  cases Option.some.inj began
  refine ⟨fun k task found => ?_, _, rfl, rfl, rfl⟩
  cases found

end State.BatchShape

theorem State.BatchRun.toward_next (h : s.BatchRun env outcomes w orders)
    (distinct : (orders.map (·.orderId)).Nodup) (proceeds : s.proceeds outcomes l = true)
    (moved : (platform env).next s l = some t) : t.Toward env outcomes w orders 1 := by
  have moves := State.Moves.of_next moved
  obtain ⟨bulk, head, ran⟩ := h.bulk
  have kept (bulk' : BulkOrder) (i : Nat) (positive : 1 ≤ i) :
      (s.tasks.set 0 (.createBulkOrders bulk'))[i]? = s.tasks[i]? :=
    List.getElem?_set_ne (by omega)
  cases moves with
  | started request => contradiction
  | died dead => contradiction
  | ticked ms => exact h.toward.congr (fun _ => rfl) (fun _ => rfl) fun _ _ => rfl
  | @settled i a task w' task' awaiting step =>
    obtain ⟨task, w', task', found, stepped, result⟩ := State.next_settle moved
    rw [result]
    cases i with
    | zero =>
      cases head.symm.trans found
      obtain ⟨⟨w'', bulk'⟩, advanced, same⟩ := Option.map_eq_some_iff.mp stepped
      cases same
      cases BulkOrderService.Moves.of_step advanced with
      | @prePersisted batchId requests =>
        obtain ⟨rfl, unstarted⟩ := ran
        exact h.toward.prePersisted batchId distinct unstarted
      | _ => exact h.toward.congr (fun _ => rfl) (fun _ => rfl) (kept _)
    | succ k => exact h.toward.settle distinct proceeds found stepped
  | @itemStarted i batchId requests currentIndex orderItem awaiting item =>
    cases i with
    | zero =>
      cases head.symm.trans awaiting
      obtain ⟨rfl, next⟩ := ran
      exact h.toward.begin next item .item (kept _) List.length_set
    | succ k => exact absurd awaiting h.shape.notBulk
  | @collected i batchId requests currentIndex results awaiting all settled =>
    cases i with
    | zero => exact h.toward.congr (fun _ => rfl) (fun _ => rfl) (kept _)
    | succ k => exact absurd awaiting h.shape.notBulk

theorem State.BatchRun.next (h : s.BatchRun env outcomes w orders)
    (distinct : (orders.map (·.orderId)).Nodup) (proceeds : s.proceeds outcomes l = true)
    (moved : (platform env).next s l = some t) : t.BatchRun env outcomes w orders := by
  have shape := h.shape.next (onlyBatch_of_proceeds proceeds) moved
  exact ⟨h.toward_next distinct proceeds moved, fun k task found => (shape.items k task found).1,
    shape.bulk⟩

theorem State.BatchRun.of_started {batchId : String}
    (began : (platform env).next (.init w) (.start (.createBulkOrders orders batchId)) = some s) :
    s.BatchRun env outcomes w orders := by
  cases Option.some.inj began
  refine ⟨⟨fun k task found => ?_, fun k orderData item => rfl, fun x _ => ⟨rfl, rfl⟩⟩,
    fun k task found => ?_, _, rfl, rfl, rfl⟩
  · cases found
  · cases found

/-! ## The batch returns -/

def BulkOrder.ahead : BulkOrder → Nat
  | initBatchRecord _ orders => 6 * orders.length + 4
  | prePersistAll _ orders => 6 * orders.length + 3
  | executing _ orders currentIndex => 6 * (orders.length - currentIndex) + 2
  | updateBatchRecord _ _ _ => 1
  | _ => 0

def Task.ahead : Task → Nat
  | createBulkOrders bulk => bulk.ahead
  | bulkItem _ _ call => call.rank
  | _ => 0

def Task.aheadAll : List Task → Nat
  | [] => 0
  | task :: rest => task.ahead + aheadAll rest

def State.ahead (s : State) : Nat := Task.aheadAll s.tasks

theorem Task.aheadAll_set {tasks : List Task} {i : Nat} (task' : Task)
    (found : tasks[i]? = some task) :
    aheadAll (tasks.set i task') + task.ahead = aheadAll tasks + task'.ahead := by
  induction tasks generalizing i with
  | nil => contradiction
  | cons first rest ih =>
    cases i with
    | zero =>
      cases Option.some.inj found
      simp only [List.set_cons_zero, aheadAll]
      omega
    | succ i =>
      have later := ih found
      simp only [List.set_cons_succ, aheadAll]
      omega

theorem Task.aheadAll_set_lt {tasks : List Task} {i : Nat} (found : tasks[i]? = some task)
    (closer : task'.ahead < task.ahead) : aheadAll (tasks.set i task') < aheadAll tasks := by
  have := aheadAll_set task' found
  omega

theorem Task.aheadAll_append (tasks : List Task) :
    aheadAll (tasks ++ [task]) = aheadAll tasks + task.ahead := by
  induction tasks with
  | nil => exact Nat.add_comm _ _
  | cons first rest ih =>
    rw [List.cons_append, aheadAll, ih, aheadAll]
    omega

theorem OrderService.step_settles (awaits : call.settled = false) :
    ∃ w' call', OrderService.step env w call (call.settles outcomes) = some (w', call') := by
  cases call with
  | createShipment orderData persisted adapter =>
    cases answer : outcomes orderData <;> simp only [CreateOrder.settles, answer] <;>
      exact ⟨_, _, rfl⟩
  | createRow orderData =>
    simp only [CreateOrder.settles, OrderService.step]
    cases w.createOrder? (pendingOrder orderData w.now) <;> exact ⟨_, _, rfl⟩
  | saveUpdate orderData reply persisted =>
    simp only [CreateOrder.settles, OrderService.step]
    cases env.dialect <;> exact ⟨_, _, rfl⟩
  | resolved response => contradiction
  | rejected error => contradiction
  | _ => exact ⟨_, _, rfl⟩

theorem itemResult_isSome (settled : call.settled = true) :
    (BulkOrderService.itemResult orderData call).isSome := by
  cases call <;> first | rfl | contradiction

def State.Nears (env : Env) (outcomes : Outcomes) (s : State) : Prop :=
  ∃ l t, s.proceeds outcomes l = true ∧ (platform env).next s l = some t ∧ t.ahead < s.ahead

theorem State.Nears.head {bulk bulk' : BulkOrder}
    (head : s.tasks[0]? = some (.createBulkOrders bulk))
    (stepped : BulkOrderService.step s.world bulk .ok = some (w', bulk'))
    (closer : bulk'.ahead < bulk.ahead) : s.Nears env outcomes := by
  refine ⟨.settle 0 .ok, ⟨w', s.tasks.set 0 (.createBulkOrders bulk')⟩, ?_, ?_, ?_⟩
  · simp [State.proceeds, head, Task.dispatching?]
  · simp [platform, State.next, head, Task.step, stepped]
  · exact Task.aheadAll_set_lt head closer

theorem State.Nears.item (found : s.tasks[k + 1]? = some (.bulkItem 0 k call))
    (about : call.About orderData.orderId) (awaits : call.settled = false) :
    s.Nears env outcomes := by
  obtain ⟨w', call', stepped⟩ : ∃ w' call', OrderService.step env s.world call
      (call.settles outcomes) = some (w', call') := OrderService.step_settles awaits
  refine ⟨.settle (k + 1) (call.settles outcomes),
    ⟨w', s.tasks.set (k + 1) (.bulkItem 0 k call')⟩, ?_, ?_, ?_⟩
  · cases call with
    | createShipment orderData persisted adapter =>
      cases answer : outcomes orderData <;>
        simp [CreateOrder.settles, answer, State.proceeds, found, Task.dispatching?,
          Answer.booking?]
    | _ => simp [CreateOrder.settles, State.proceeds, found, Task.dispatching?]
  · simp [platform, State.next, found, Task.step, stepped]
  · exact Task.aheadAll_set_lt found (SingleOrder.rank_step (OrderService.step_single about stepped).1)

theorem State.Nears.start {batchId : String} {currentIndex : Nat}
    (head : s.tasks[0]? = some (.createBulkOrders (.executing batchId orders currentIndex)))
    (item : orders[currentIndex]? = some orderData)
    (free : s.tasks.countP (Task.pendingItem 0) = 0) : s.Nears env outcomes := by
  have worker := BulkOrderService.effectiveLimit_pos env.bulkConcurrencyLimit orders.length
  have inside := (List.getElem?_eq_some_iff.mp item).1
  refine ⟨.startItem 0, ⟨s.world, s.tasks.set 0 (.createBulkOrders
    (.executing batchId orders (currentIndex + 1))) ++
      [.bulkItem 0 currentIndex (createOrder orderData)]⟩, rfl, ?_, ?_⟩
  · simp [platform, State.next, head, item, free, worker]
  · have later := Task.aheadAll_set
      (.createBulkOrders (.executing batchId orders (currentIndex + 1))) head
    simp only [Task.ahead, BulkOrder.ahead] at later
    simp only [State.ahead, Task.aheadAll_append, Task.ahead, createOrder, CreateOrder.rank]
    omega

theorem State.BatchRun.nears (h : s.BatchRun env outcomes w orders)
    (awaits : ∀ response, s.tasks[0]? ≠ some (.createBulkOrders (.resolved response))) :
    s.Nears env outcomes := by
  obtain ⟨bulk, head, ran⟩ := h.bulk
  cases bulk with
  | initBatchRecord batchId requests => exact .head head rfl (by simp [BulkOrder.ahead])
  | prePersistAll batchId requests => exact .head head rfl (by simp [BulkOrder.ahead])
  | updateBatchRecord batchId requests results => exact .head head rfl (by simp [BulkOrder.ahead])
  | resolved response => exact absurd head (awaits response)
  | rejected error => exact ran.elim
  | executing batchId requests currentIndex =>
    obtain ⟨rfl, next⟩ := ran
    by_cases unsettled : ∃ k call, s.tasks[k + 1]? = some (.bulkItem 0 k call) ∧
        call.settled = false
    · obtain ⟨k, call, found, awaits⟩ := unsettled
      obtain ⟨orderData, other, item, runs, about⟩ := h.toward.calls k _ found
      cases runs
      exact .item found about awaits
    have settled (k : Nat) (call : CreateOrder)
        (found : s.tasks[k + 1]? = some (.bulkItem 0 k call)) : call.settled = true := by
      by_contra awaits
      exact unsettled ⟨k, call, found, Bool.eq_false_iff.mpr awaits⟩
    cases item : requests[currentIndex]? with
    | some orderData =>
      refine .start head item (List.countP_eq_zero.mpr fun task mem pending => ?_)
      obtain ⟨j, found⟩ := List.getElem?_of_mem mem
      cases j with
      | zero =>
        cases head.symm.trans found
        contradiction
      | succ k =>
        obtain ⟨call, rfl⟩ := h.items k task found
        simp [Task.pendingItem, settled k call found] at pending
    | none =>
      have all := List.getElem?_eq_none_iff.mp item
      obtain ⟨results, collected⟩ : ∃ results, s.itemResults 0 requests = some results := by
        refine mapM_isSome fun entry mem => ?_
        obtain ⟨j, found⟩ := List.getElem?_of_mem mem
        rw [List.getElem?_zipIdx] at found
        obtain ⟨orderData, here, rfl⟩ := Option.map_eq_some_iff.mp found
        have begun : j + 1 < s.tasks.length := by
          have := (List.getElem?_eq_some_iff.mp here).1
          omega
        obtain ⟨call, same⟩ := h.items j _ (List.getElem?_eq_getElem begun)
        have found := (List.getElem?_eq_getElem begun).trans (congrArg some same)
        rw [Nat.zero_add, findSome?_itemResult h.items head, State.callAt_of_runs found .item]
        exact itemResult_isSome (settled j call found)
      refine ⟨.collect 0, ⟨s.world, s.tasks.set 0 (.createBulkOrders
        (.updateBatchRecord batchId requests results))⟩, rfl, ?_, ?_⟩
      · simp [platform, State.next, head, Nat.not_lt.mpr all, collected]
      · exact Task.aheadAll_set_lt head (by simp [Task.ahead, BulkOrder.ahead])

theorem State.BatchRun.returns (h : s.BatchRun env outcomes w orders)
    (distinct : (orders.map (·.orderId)).Nodup) :
    ∃ t response, (platform env).Reaches (fun s l => s.proceeds outcomes l = true) s t ∧
      t.tasks[0]? = some (.createBulkOrders (.resolved response)) := by
  induction ahead : s.ahead using Nat.strong_induction_on generalizing s with
  | _ n ih =>
    by_cases done : ∃ response, s.tasks[0]? = some (.createBulkOrders (.resolved response))
    · obtain ⟨response, returned⟩ := done
      exact ⟨s, response, .refl, returned⟩
    · obtain ⟨l, t, proceeds, moved, closer⟩ := h.nears fun response same => done ⟨response, same⟩
      obtain ⟨u, response, later, returned⟩ :=
        ih t.ahead (ahead ▸ closer) (h.next distinct proceeds moved) rfl
      exact ⟨u, response, (Library.Machine.Reaches.refl.step l proceeds moved).trans later, returned⟩

end
end CourierPlatform
