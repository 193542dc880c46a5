import CourierPlatform.Proofs.BatchAccounting
import CourierPlatform.Spec.BatchReport

/-! A batch call among other traffic. Its items are its own, its record is written by no other call, and
what its steps still have ahead shrinks with each of them. -/
namespace CourierPlatform
open Library

section
variable {env : Env} {w w' : World} {s t : State} {l : Label} {a : Answer} {i j k : Nat}
  {batchId : String} {orders : List NormalizedCreateOrderRequest} {bulk bulk' : BulkOrder}
  {task task' : Task} {results : List BulkOrderItemResult}

/-! ## The record -/

theorem World.createOrder?_batches {after : World} {row : Order} (h : w.createOrder? row = some after) :
    after.batches = w.batches := by
  obtain ⟨orders, -, rfl⟩ := Option.map_eq_some_iff.mp h
  rfl

theorem OrderService.Moves.batches {call call' : CreateOrder}
    (moved : OrderService.Moves env w call a w' call') : w'.batches = w.batches := by
  cases moved with
  | inserted inserted => exact World.createOrder?_batches inserted
  | _ => rfl

theorem filter_replaceBatch (batch : BulkBatch) (batches : List BulkBatch) :
    (BulkOrderService.replaceBatch batch batches).filter (·.batchId = batchId) =
      if batch.batchId = batchId then (batches.filter (·.batchId = batchId)).map fun _ => batch
      else batches.filter (·.batchId = batchId) := by
  induction batches with
  | nil => simp [BulkOrderService.replaceBatch]
  | cons first rest ih =>
    unfold BulkOrderService.replaceBatch at ih ⊢
    rw [List.map_cons, List.filter_cons, ih, List.filter_cons]
    by_cases own : batch.batchId = batchId
    · by_cases same : first.batchId = batchId
      · simp [own, same]
      · simp [own, same]
    · by_cases same : first.batchId = batch.batchId
      · simp [own, same]
      · simp [own, same]

theorem Task.Moves.apart (moved : task.Moves env w a w' task') (other : task.batchId? ≠ some batchId) :
    w'.batches.filter (·.batchId = batchId) = w.batches.filter (·.batchId = batchId) ∧
      task'.batchId? ≠ some batchId := by
  cases moved with
  | createOrder moved => exact ⟨by rw [moved.batches], other⟩
  | bulkItem moved => exact ⟨by rw [moved.batches], other⟩
  | trackOrder moved => cases moved <;> exact ⟨rfl, other⟩
  | cancelOrder moved => cases moved <;> exact ⟨rfl, other⟩
  | reconcile moved => cases moved <;> exact ⟨rfl, other⟩
  | createBulkOrders moved =>
    cases moved with
    | @batchCreated another requests =>
      have differs : ¬ another = batchId := fun same => other (congrArg some same)
      refine ⟨?_, other⟩
      rw [List.filter_append, List.filter_singleton]
      simp [BulkOrderService.initialBatch, differs]
    | prePersisted => exact ⟨rfl, other⟩
    | notPrePersisted => exact ⟨rfl, other⟩
    | @summarized another requests results =>
      have differs : ¬ another = batchId := fun same => other (congrArg some same)
      exact ⟨(filter_replaceBatch _ _).trans (if_neg differs), by simp [Task.batchId?]⟩
    | failed awaits => exact ⟨rfl, by simp [Task.batchId?]⟩

/-! ## The batch -/

namespace BulkOrder

def begun : BulkOrder → Nat
  | initBatchRecord _ _ => 0
  | prePersistAll _ _ => 0
  | executing _ _ currentIndex => currentIndex
  | updateBatchRecord _ orders _ => orders.length
  | resolved response => response.totalOrders
  | rejected _ => 0

def collected? : BulkOrder → Option (List BulkOrderItemResult)
  | updateBatchRecord _ _ results => some results
  | resolved response => some response.results
  | _ => none

/-- What the call has written to its record. -/
def recorded : BulkOrder → List BulkBatch
  | initBatchRecord _ _ => []
  | prePersistAll batchId orders => [BulkOrderService.initialBatch batchId orders.length]
  | executing batchId orders _ => [BulkOrderService.initialBatch batchId orders.length]
  | updateBatchRecord batchId orders _ => [BulkOrderService.initialBatch batchId orders.length]
  | resolved response =>
    [BulkOrderService.finalBatch response.batchId response.totalOrders response.results]
  | rejected _ => []

def Of (batchId : String) (orders : List NormalizedCreateOrderRequest) : BulkOrder → Prop
  | initBatchRecord id requests => id = batchId ∧ requests = orders
  | prePersistAll id requests => id = batchId ∧ requests = orders
  | executing id requests currentIndex =>
    id = batchId ∧ requests = orders ∧ currentIndex ≤ orders.length
  | updateBatchRecord id requests _ => id = batchId ∧ requests = orders
  | resolved response =>
    response = BulkOrderService.response batchId orders.length response.results
  | rejected _ => False

end BulkOrder

structure State.Collected (i : Nat) (orders : List NormalizedCreateOrderRequest) (s : State)
    (results : List BulkOrderItemResult) : Prop where
  length : results.length = orders.length
  item : ∀ (k : Nat) (orderItem : NormalizedCreateOrderRequest), orders[k]? = some orderItem →
    ∃ call result, .bulkItem i k call ∈ s.tasks ∧
      BulkOrderService.itemResult orderItem call = some result ∧ results[k]? = some result

structure State.InBatch (i : Nat) (batchId : String) (orders : List NormalizedCreateOrderRequest)
    (s : State) (bulk : BulkOrder) : Prop where
  head : s.tasks[i]? = some (.createBulkOrders bulk)
  of : bulk.Of batchId orders
  others : ∀ (j : Nat) (task : Task), s.tasks[j]? = some task → j ≠ i → task.batchId? ≠ some batchId
  items : ∀ k, s.tasks.countP (Task.isItem i k) = if k < bulk.begun then 1 else 0
  collected : ∀ results, bulk.collected? = some results → s.Collected i orders results
  record : s.recordsOf batchId = bulk.recorded

theorem State.Moves.keeps_own (moves : Moves env s l t) (kept : s.keepsBatch i batchId l = true)
    (own : s.ownCall i j = true) (found : s.tasks[j]? = some task) (notSettled : ∀ a, l ≠ .settle j a)
    (notStarted : l ≠ .startItem j) (notCollected : l ≠ .collect j) : t.tasks[j]? = some task := by
  rcases moves.stays found notSettled notStarted notCollected with same | ⟨dead, rfl, dies, -⟩
  · exact same
  · have spared := List.all_eq_true.mp kept j dies
    rw [own] at spared
    contradiction

theorem State.Moves.keeps (moves : Moves env s l t) (kept : s.keepsBatch i batchId l = true)
    (mem : task ∈ s.tasks) (own : task.itemOf i = true) (settled : task.settled = true) :
    task ∈ t.tasks := by
  obtain ⟨j, found⟩ := List.getElem?_of_mem mem
  have mine : s.ownCall i j = true := by simp [ownCall, found, own]
  apply List.mem_of_getElem? (i := j)
  apply moves.keeps_own kept mine found
  · rintro a rfl
    cases moves with
    | settled awaiting step =>
      cases awaiting.symm.trans found
      rw [step.unsettled] at settled
      contradiction
  · rintro rfl
    cases moves with
    | itemStarted awaiting item =>
      cases awaiting.symm.trans found
      contradiction
  · rintro rfl
    cases moves with
    | collected awaiting all results =>
      cases awaiting.symm.trans found
      contradiction

theorem Task.Moves.isItem (moved : task.Moves env w a w' task') : task'.isItem i k = task.isItem i k := by
  cases moved <;> rfl

theorem Task.itemOf_of_isItem (item : task.isItem i k = true) : task.itemOf i = true := by
  cases task with
  | bulkItem bulk index call =>
    simp only [isItem, Bool.and_eq_true, decide_eq_true_eq] at item
    exact decide_eq_true item.1
  | _ => contradiction

theorem Request.start_batchId? {env : Env} {now : Int} {request : Request}
    (kept : s.keepsBatch i batchId (.start request) = true) :
    (request.start env now).batchId? ≠ some batchId := by
  cases request with
  | createBulkOrders orders other =>
    intro same
    cases same
    simp [State.keepsBatch] at kept
  | _ => simp [Request.start, Task.batchId?]

theorem State.Collected.keeps (h : s.Collected i orders results) (moves : Moves env s l t)
    (kept : s.keepsBatch i batchId l = true) : t.Collected i orders results := by
  refine ⟨h.length, fun k orderItem found => ?_⟩
  obtain ⟨call, result, mem, same, here⟩ := h.item k orderItem found
  exact ⟨call, result, moves.keeps kept mem (decide_eq_true rfl) (itemResult_settled same), same, here⟩

namespace State.InBatch

theorem others_next (h : s.InBatch i batchId orders bulk) (moves : Moves env s l t)
    (kept : s.keepsBatch i batchId l = true) (j : Nat) (task : Task) (found : t.tasks[j]? = some task)
    (other : j ≠ i) : task.batchId? ≠ some batchId := by
  cases moves.came found with
  | kept before still => exact h.others j task before other
  | started request label last =>
    subst label
    exact Request.start_batchId? kept
  | moved label awaiting step => exact (step.apart (h.others j _ awaiting other)).2
  | item awaiting label item last => simp [Task.batchId?]
  | wentOn awaiting label item =>
    have before := h.others j _ awaiting other
    exact before
  | collected awaiting =>
    have before := h.others j _ awaiting other
    exact before
  | died before => simp [Task.batchId?]

def Aside (i : Nat) (l : Label) : Prop := (∀ a, l ≠ .settle i a) ∧ l ≠ .startItem i ∧ l ≠ .collect i

theorem Aside.or_own (i : Nat) (l : Label) :
    (∃ a, l = .settle i a) ∨ l = .startItem i ∨ l = .collect i ∨ Aside i l := by
  by_cases settles : ∃ a, l = .settle i a
  · exact .inl settles
  by_cases starts : l = .startItem i
  · exact .inr (.inl starts)
  by_cases collects : l = .collect i
  · exact .inr (.inr (.inl collects))
  · exact .inr (.inr (.inr ⟨fun a same => settles ⟨a, same⟩, starts, collects⟩))

theorem aside (h : s.InBatch i batchId orders bulk) (moves : Moves env s l t)
    (kept : s.keepsBatch i batchId l = true) (aside : Aside i l) : t.InBatch i batchId orders bulk := by
  obtain ⟨notSettled, notStarted, notCollected⟩ := aside
  have results (results) (collected : bulk.collected? = some results) :=
    (h.collected results collected).keeps moves kept
  have others := h.others_next moves kept
  have head : t.tasks[i]? = some (.createBulkOrders bulk) :=
    moves.keeps_own kept (by simp [ownCall]) h.head notSettled notStarted notCollected
  cases moves with
  | started request =>
    refine ⟨head, h.of, others, fun k => ?_, results, h.record⟩
    have none : (request.start env s.world.now).isItem i k = false := by cases request <;> rfl
    rw [List.countP_append, List.countP_singleton, none]
    exact h.items k
  | ticked ms => exact ⟨head, h.of, others, h.items, results, h.record⟩
  | @settled j a task w' task' awaiting step =>
    have apart : j ≠ i := by
      rintro rfl
      exact notSettled a rfl
    have frame := (step.apart (h.others j task awaiting apart)).1
    refine ⟨head, h.of, others, fun k => ?_, results, frame.trans h.record⟩
    have count := countP_set_add (p := Task.isItem i k) task' awaiting
    rw [step.isItem] at count
    exact (Nat.add_right_cancel count).trans (h.items k)
  | @itemStarted j other requests currentIndex orderItem awaiting item =>
    have apart : j ≠ i := by
      rintro rfl
      exact notStarted rfl
    refine ⟨head, h.of, others, fun k => ?_, results, h.record⟩
    have count := countP_set_add (p := Task.isItem i k)
      (.createBulkOrders (.executing other requests (currentIndex + 1))) awaiting
    have none : Task.isItem i k (.bulkItem j currentIndex (OrderService.createOrder orderItem)) = false := by
      simp [Task.isItem, apart]
    rw [List.countP_append, List.countP_singleton, none]
    exact (Nat.add_right_cancel count).trans (h.items k)
  | @collected j other requests currentIndex results' awaiting all settled =>
    refine ⟨head, h.of, others, fun k => ?_, results, h.record⟩
    have count := countP_set_add (p := Task.isItem i k)
      (.createBulkOrders (.updateBatchRecord other requests results')) awaiting
    exact (Nat.add_right_cancel count).trans (h.items k)
  | died dead =>
    refine ⟨head, h.of, others, fun k => ?_, results, h.record⟩
    rw [← h.items k]
    apply countP_eq_of_getElem? List.length_mapIdx
    intro j after before found here
    cases own : s.ownCall i j with
    | true =>
      have moves : Moves env s (.crash dead) _ := .died dead
      have same := moves.keeps_own kept own here (fun _ => Label.noConfusion) Label.noConfusion
        Label.noConfusion
      cases found.symm.trans same
      rfl
    | false =>
      have none : before.isItem i k = false := by
        cases item : before.isItem i k with
        | false => rfl
        | true =>
          have mine := Task.itemOf_of_isItem item
          simp [ownCall, here, mine] at own
      rw [List.getElem?_mapIdx, here, Option.map_some] at found
      cases found
      rw [none]
      split
      · rfl
      · exact none

theorem settleHead (h : s.InBatch i batchId orders bulk)
    (kept : s.keepsBatch i batchId (.settle i a) = true)
    (stepped : BulkOrderService.step s.world bulk a = some (w', bulk')) :
    InBatch i batchId orders ⟨w', s.tasks.set i (.createBulkOrders bulk')⟩ bulk' := by
  have head : (s.tasks.set i (.createBulkOrders bulk'))[i]? = some (.createBulkOrders bulk') :=
    getElem?_set_of_some h.head
  have others (j : Nat) (task : Task)
      (found : (s.tasks.set i (.createBulkOrders bulk'))[j]? = some task) (other : j ≠ i) :
      task.batchId? ≠ some batchId :=
    h.others j task ((List.getElem?_set_ne other.symm).symm.trans found) other
  have items (k : Nat) : (s.tasks.set i (.createBulkOrders bulk')).countP (Task.isItem i k) =
      if k < bulk.begun then 1 else 0 := by
    have count := countP_set_add (p := Task.isItem i k) (.createBulkOrders bulk') h.head
    exact (Nat.add_right_cancel count).trans (h.items k)
  have results {results : List BulkOrderItemResult} (collected : s.Collected i orders results) :
      Collected i orders ⟨w', s.tasks.set i (.createBulkOrders bulk')⟩ results := by
    refine ⟨collected.length, fun k orderItem found => ?_⟩
    obtain ⟨call, result, mem, same, here⟩ := collected.item k orderItem found
    obtain ⟨j, at_j⟩ := List.getElem?_of_mem mem
    have apart : i ≠ j := by
      rintro rfl
      cases h.head.symm.trans at_j
    exact ⟨call, result, List.mem_of_getElem? ((List.getElem?_set_ne apart).trans at_j), same, here⟩
  have record := h.record
  have named := h.of
  unfold State.recordsOf at record
  cases bulk with
  | initBatchRecord id requests =>
    cases a with
    | ok =>
      cases stepped
      obtain ⟨rfl, rfl⟩ := named
      refine ⟨head, ⟨rfl, rfl⟩, others, items, fun _ none => by contradiction, ?_⟩
      unfold State.recordsOf
      rw [List.filter_append, record]
      simp [BulkOrderService.initialBatch, BulkOrder.recorded]
    | dbError error => simp [State.keepsBatch, h.head, Task.writesRecord] at kept
    | _ => contradiction
  | prePersistAll id requests =>
    obtain ⟨rfl, rfl⟩ := named
    cases a with
    | ok =>
      cases stepped
      exact ⟨head, ⟨rfl, rfl, Nat.zero_le _⟩, others, items, fun _ none => by contradiction, record⟩
    | dbError error =>
      cases stepped
      exact ⟨head, ⟨rfl, rfl, Nat.zero_le _⟩, others, items, fun _ none => by contradiction, record⟩
    | _ => contradiction
  | updateBatchRecord id requests found =>
    cases a with
    | ok =>
      cases stepped
      obtain ⟨rfl, rfl⟩ := named
      refine ⟨head, rfl, others, items, fun _ same => Option.some.inj same ▸ results (h.collected _ rfl), ?_⟩
      refine (filter_replaceBatch _ _).trans ?_
      rw [record]
      simp [BulkOrder.recorded, BulkOrderService.finalBatch, BulkOrderService.response]
    | dbError error => simp [State.keepsBatch, h.head, Task.writesRecord] at kept
    | _ => contradiction
  | executing id requests currentIndex => cases a <;> contradiction
  | resolved response => cases a <;> contradiction
  | rejected error => cases a <;> contradiction

theorem startItem {currentIndex : Nat} {orderItem : NormalizedCreateOrderRequest}
    (h : s.InBatch i batchId orders (.executing batchId orders currentIndex))
    (item : orders[currentIndex]? = some orderItem) :
    InBatch i batchId orders
      ⟨s.world, s.tasks.set i (.createBulkOrders (.executing batchId orders (currentIndex + 1))) ++
        [.bulkItem i currentIndex (OrderService.createOrder orderItem)]⟩
      (.executing batchId orders (currentIndex + 1)) := by
  have head : (s.tasks.set i (.createBulkOrders (.executing batchId orders (currentIndex + 1))))[i]? =
      some (.createBulkOrders (.executing batchId orders (currentIndex + 1))) :=
    getElem?_set_of_some h.head
  refine ⟨getElem?_append_of_some head,
    ⟨rfl, rfl, (List.getElem?_eq_some_iff.mp item).1⟩, ?_, fun k => ?_, fun _ none => by contradiction,
    h.record⟩
  · intro j task found other
    rcases getElem?_concat_cases found with before | ⟨-, rfl⟩
    · exact h.others j task ((List.getElem?_set_ne other.symm).symm.trans before) other
    · simp [Task.batchId?]
  · have count := countP_set_add (p := Task.isItem i k)
      (.createBulkOrders (.executing batchId orders (currentIndex + 1))) h.head
    have before : s.tasks.countP (Task.isItem i k) = if k < currentIndex then 1 else 0 := h.items k
    rw [← Nat.add_right_cancel count] at before
    rw [List.countP_append, List.countP_singleton, before]
    change _ = if k < currentIndex + 1 then 1 else 0
    simp only [Task.isItem, decide_true, Bool.true_and, decide_eq_true_eq]
    split <;> split <;> split <;> omega

theorem collect {currentIndex : Nat}
    (h : s.InBatch i batchId orders (.executing batchId orders currentIndex))
    (all : orders.length ≤ currentIndex) (settled : s.itemResults i orders = some results) :
    InBatch i batchId orders
      ⟨s.world, s.tasks.set i (.createBulkOrders (.updateBatchRecord batchId orders results))⟩
      (.updateBatchRecord batchId orders results) := by
  obtain rfl : currentIndex = orders.length := Nat.le_antisymm h.of.2.2 all
  obtain ⟨length, each⟩ := mapM_option.mp settled
  refine ⟨getElem?_set_of_some h.head, ⟨rfl, rfl⟩, ?_, fun k => ?_, ?_,
    h.record⟩
  · intro j task found other
    exact h.others j task ((List.getElem?_set_ne other.symm).symm.trans found) other
  · have count := countP_set_add (p := Task.isItem i k)
      (.createBulkOrders (.updateBatchRecord batchId orders results)) h.head
    exact (Nat.add_right_cancel count).trans (h.items k)
  · rintro _ ⟨⟩
    refine ⟨by rw [length, List.length_zipIdx], fun k orderItem found => ?_⟩
    have zipped : orders.zipIdx[k]? = some (orderItem, k) := by
      rw [List.getElem?_zipIdx, found, Nat.zero_add]
      rfl
    have inside : k < results.length := by
      rw [length]
      exact (List.getElem?_eq_some_iff.mp zipped).1
    have here := each k _ zipped
    rw [List.getElem?_eq_getElem inside] at here
    obtain ⟨task, mem, same⟩ := List.exists_of_findSome?_eq_some here.symm
    obtain ⟨j, at_j⟩ := List.getElem?_of_mem mem
    cases task with
    | bulkItem bulk index call =>
      simp only [Task.itemResult?] at same
      split at same
      next own =>
        obtain ⟨rfl, rfl⟩ := own
        have apart : bulk ≠ j := by
          rintro rfl
          cases h.head.symm.trans at_j
        exact ⟨call, _, List.mem_of_getElem? ((List.getElem?_set_ne apart).trans at_j), same,
          List.getElem?_eq_getElem inside⟩
      next => contradiction
    | _ => contradiction

theorem next (h : s.InBatch i batchId orders bulk) (kept : s.keepsBatch i batchId l = true)
    (moved : (platform env).next s l = some t) : ∃ bulk', t.InBatch i batchId orders bulk' := by
  have moves := Moves.of_next moved
  rcases Aside.or_own i l with ⟨a, rfl⟩ | rfl | rfl | aside
  · simp only [platform, State.next, h.head, bind, Option.bind_some, Option.bind_eq_some_iff,
      Prod.exists] at moved
    obtain ⟨w', task', stepped, result⟩ := moved
    obtain ⟨⟨w'', bulk'⟩, settled, same⟩ := Option.map_eq_some_iff.mp stepped
    cases same
    cases result
    exact ⟨bulk', h.settleHead kept settled⟩
  · cases moves with
    | itemStarted awaiting item =>
      cases h.head.symm.trans awaiting
      obtain ⟨rfl, rfl, -⟩ := h.of
      exact ⟨_, h.startItem item⟩
  · cases moves with
    | collected awaiting all settled =>
      cases h.head.symm.trans awaiting
      obtain ⟨rfl, rfl, -⟩ := h.of
      exact ⟨_, h.collect all settled⟩
  · exact ⟨bulk, h.aside moves kept aside⟩

end State.InBatch

/-! ## The report -/

theorem itemResult_success {orderItem : NormalizedCreateOrderRequest} {call : CreateOrder}
    {result : BulkOrderItemResult} (h : BulkOrderService.itemResult orderItem call = some result) :
    result.status = .success ↔ ∃ response, call = .resolved response := by
  cases call <;> cases h <;> simp [BulkOrderService.formatItemErrorResult]

theorem itemResult_named {orderItem : NormalizedCreateOrderRequest} {call : CreateOrder}
    {result : BulkOrderItemResult} (h : BulkOrderService.itemResult orderItem call = some result) :
    result.orderId = orderItem.orderId ∧ result.courierPartner = orderItem.courierPartner := by
  cases call <;> cases h <;> exact ⟨rfl, rfl⟩

theorem State.Collected.successfulOrders (h : s.Collected i orders results) :
    BulkOrderService.successfulOrders results = results.countP (·.status = .success) := by
  apply List.countP_congr
  intro result mem
  obtain ⟨k, found⟩ := List.getElem?_of_mem mem
  have inside : k < orders.length := h.length ▸ (List.getElem?_eq_some_iff.mp found).1
  obtain ⟨call, same, -, made, here⟩ := h.item k _ (List.getElem?_eq_getElem inside)
  cases found.symm.trans here
  rw [itemResult_status made]
  split <;> simp

theorem finalStatus_cases {successful failed : Nat} (some : successful + failed ≠ 0) :
    (BulkOrderService.finalStatus successful failed = .completed ↔ failed = 0) ∧
      (BulkOrderService.finalStatus successful failed = .failed ↔ successful = 0) ∧
      (BulkOrderService.finalStatus successful failed = .partialSuccess ↔
        failed ≠ 0 ∧ successful ≠ 0) := by
  unfold BulkOrderService.finalStatus
  by_cases none : failed = 0
  · have : successful ≠ 0 := by omega
    simp [none, this]
  · by_cases all : successful = 0 <;> simp [none, all]

theorem State.InBatch.reported {response : BulkOrderResponse}
    (h : s.InBatch i batchId orders (.resolved response)) (nonempty : orders ≠ []) :
    response.batchId = batchId ∧ s.BatchReported i batchId orders response := by
  have collected := h.collected _ rfl
  have record := h.record
  have same : response = BulkOrderService.response batchId orders.length response.results := h.of
  have counted := collected.successfulOrders
  have length := collected.length
  have items (k : Nat) : s.tasks.countP (Task.isItem i k) = if k < response.totalOrders then 1 else 0 :=
    h.items k
  generalize response.results = results at *
  subst same
  have most : BulkOrderService.successfulOrders results ≤ orders.length :=
    length ▸ List.countP_le_length
  have some : orders.length ≠ 0 := fun none => nonempty (List.eq_nil_of_length_eq_zero none)
  refine ⟨rfl, length, ?_, ⟨rfl, Nat.add_sub_cancel' most, counted⟩, _, record, ?_⟩
  · intro k orderItem found
    have once : s.tasks.countP (Task.isItem i k) = 1 :=
      (items k).trans (if_pos (List.getElem?_eq_some_iff.mp found).1)
    obtain ⟨call, result, mem, made, here⟩ := collected.item k orderItem found
    obtain ⟨named, partner⟩ := itemResult_named made
    refine ⟨once, result, here, named, partner, (itemResult_success made).trans ?_⟩
    constructor
    · rintro ⟨answer, rfl⟩
      exact ⟨answer, mem⟩
    · rintro ⟨answer, resolved⟩
      have one := eq_of_countP_one once mem resolved (by simp [Task.isItem]) (by simp [Task.isItem])
      exact ⟨answer, (Task.bulkItem.inj one).2.2⟩
  · exact finalStatus_cases ((Nat.add_sub_cancel' most).trans_ne some)

theorem State.InBatch.kept (h : s.InBatch i batchId orders bulk) (nonempty : orders ≠ []) :
    s.BatchKept i batchId orders := by
  have head := h.head
  have record := h.record
  have named := h.of
  refine ⟨?_, ?_, ?_⟩
  · intro error rejected
    cases head.symm.trans rejected
    exact named
  · intro response resolved
    cases head.symm.trans resolved
    exact h.reported nonempty
  · intro unresolved
    cases bulk with
    | initBatchRecord id requests =>
      obtain ⟨rfl, rfl⟩ := named
      exact .inl ⟨record, head⟩
    | prePersistAll id requests =>
      obtain ⟨rfl, rfl⟩ := named
      exact .inr record
    | executing id requests currentIndex =>
      obtain ⟨rfl, rfl, -⟩ := named
      exact .inr record
    | updateBatchRecord id requests results =>
      obtain ⟨rfl, rfl⟩ := named
      exact .inr record
    | resolved response => exact absurd head (unresolved response)
    | rejected error => exact named.elim

/-! ## The end of the call -/

theorem OrderService.Moves.rank {call call' : CreateOrder}
    (moved : OrderService.Moves env w call a w' call') : call'.rank < call.rank := by
  cases moved with
  | prePersisted => exact Nat.lt_succ_of_le rank_dispatch
  | inserted => exact Nat.lt_succ_of_le rank_dispatch
  | failed awaits error => cases call <;> first | contradiction | exact Nat.zero_lt_succ _
  | _ => simp [CreateOrder.rank]

theorem BulkOrderService.Moves.ahead (moved : BulkOrderService.Moves w bulk a w' bulk')
    (awaits : bulk.ahead ≠ 0) : bulk'.ahead < bulk.ahead := by
  cases moved with
  | failed => exact Nat.pos_of_ne_zero awaits
  | _ => simp [BulkOrder.ahead]

def Task.itemAhead (i : Nat) : Task → Nat
  | bulkItem bulk _ call => if bulk = i then call.rank else 0
  | _ => 0

theorem Task.Moves.itemAhead (moved : task.Moves env w a w' task') :
    (task.itemOf i).toNat + task'.itemAhead i ≤ task.itemAhead i := by
  cases moved with
  | bulkItem moved =>
    simp only [Task.itemOf, Task.itemAhead]
    split
    next own =>
      simp only [own, decide_true, Bool.toNat_true]
      have closer := moved.rank
      omega
    next other => simp [other]
  | _ => exact Nat.le_refl 0

namespace State.InBatch

/-- The steps ahead of the batch at most, counting those of items that have not begun. -/
def ahead (i : Nat) (s : State) (bulk : BulkOrder) : Nat :=
  bulk.ahead + UniqueTable.totalOf (Task.itemAhead i) s.tasks

theorem Aside.same (aside : Aside i l) (h : s.InBatch i batchId orders bulk)
    (later : t.InBatch i batchId orders bulk') (moves : Moves env s l t) : bulk' = bulk := by
  obtain ⟨notSettled, notStarted, notCollected⟩ := aside
  rcases moves.stays h.head notSettled notStarted notCollected with same | ⟨-, -, -, -, gone⟩
  · cases same.symm.trans later.head
    rfl
  · cases gone.symm.trans later.head

theorem Aside.closer (aside : Aside i l) (moves : Moves env s l t) :
    (s.ownStep i l).toNat + UniqueTable.totalOf (Task.itemAhead i) t.tasks ≤
      UniqueTable.totalOf (Task.itemAhead i) s.tasks := by
  obtain ⟨notSettled, notStarted, notCollected⟩ := aside
  cases moves with
  | started request =>
    have none : (request.start env s.world.now).itemAhead i = 0 := by cases request <;> rfl
    rw [UniqueTable.totalOf_append, none]
    simp [ownStep]
  | ticked ms => simp [ownStep]
  | @settled j a task w' task' awaiting step =>
    have total := UniqueTable.totalOf_set (Task.itemAhead i) task' awaiting
    have item := step.itemAhead (i := i)
    have apart : j ≠ i := by
      rintro rfl
      exact notSettled a rfl
    have own : s.ownStep i (.settle j a) = task.itemOf i := by
      simp [ownStep, ownCall, apart, awaiting]
    rw [own]
    dsimp only
    omega
  | @itemStarted j id requests currentIndex orderItem awaiting item =>
    have total := UniqueTable.totalOf_set (Task.itemAhead i)
      (.createBulkOrders (.executing id requests (currentIndex + 1))) awaiting
    have apart : j ≠ i := by
      rintro rfl
      exact notStarted rfl
    rw [UniqueTable.totalOf_append]
    simp only [ownStep, apart, decide_false, Bool.toNat_false, Task.itemAhead, if_false] at total ⊢
    omega
  | @collected j id requests currentIndex results awaiting all settled =>
    have total := UniqueTable.totalOf_set (Task.itemAhead i)
      (.createBulkOrders (.updateBatchRecord id requests results)) awaiting
    have apart : j ≠ i := by
      rintro rfl
      exact notCollected rfl
    simp only [ownStep, apart, decide_false, Bool.toNat_false, Task.itemAhead] at total ⊢
    omega
  | died dead =>
    have fewer := UniqueTable.totalOf_mapIdx_le (Task.itemAhead i) s.tasks
      (fun i task => if i ∈ dead ∧ task.isApi then .crashed else task) (by
        intro j task
        split
        · exact Nat.zero_le _
        · exact Nat.le_refl _)
    simp only [ownStep, Bool.toNat_false]
    omega

theorem closer (h : s.InBatch i batchId orders bulk) (later : t.InBatch i batchId orders bulk')
    (moves : Moves env s l t) : (s.ownStep i l).toNat + ahead i t bulk' ≤ ahead i s bulk := by
  have inside := (List.getElem?_eq_some_iff.mp h.head).1
  have head := later.head
  unfold ahead
  rcases Aside.or_own i l with ⟨a, rfl⟩ | rfl | rfl | aside
  · cases moves with
    | settled awaiting step =>
      cases h.head.symm.trans awaiting
      rw [List.getElem?_set_self inside] at head
      cases head
      have total := UniqueTable.totalOf_set (Task.itemAhead i) (.createBulkOrders bulk') awaiting
      cases step with
      | createBulkOrders step =>
        have awaits : bulk.ahead ≠ 0 := by
          have moved : Task.Moves env s.world (.createBulkOrders bulk) _ _ _ := .createBulkOrders step
          have unsettled := moved.unsettled
          cases bulk <;> first | contradiction | simp [BulkOrder.ahead]
        have fewer := step.ahead awaits
        simp only [ownStep, ownCall, decide_true, Bool.true_or, Bool.toNat_true, Task.itemAhead] at total ⊢
        omega
  · cases moves with
    | @itemStarted _ id requests currentIndex orderItem awaiting item =>
      cases h.head.symm.trans awaiting
      rw [List.getElem?_append_left (by rwa [List.length_set]), List.getElem?_set_self inside] at head
      cases head
      have total := UniqueTable.totalOf_set (Task.itemAhead i)
        (.createBulkOrders (.executing id requests (currentIndex + 1))) awaiting
      have bound := (List.getElem?_eq_some_iff.mp item).1
      rw [UniqueTable.totalOf_append]
      simp only [ownStep, decide_true, Bool.toNat_true, Task.itemAhead, BulkOrder.ahead, if_true,
        OrderService.createOrder, CreateOrder.rank] at total ⊢
      omega
  · cases moves with
    | @collected _ id requests currentIndex results awaiting all settled =>
      cases h.head.symm.trans awaiting
      rw [List.getElem?_set_self inside] at head
      cases head
      have total := UniqueTable.totalOf_set (Task.itemAhead i)
        (.createBulkOrders (.updateBatchRecord id requests results)) awaiting
      simp only [ownStep, decide_true, Bool.toNat_true, Task.itemAhead, BulkOrder.ahead] at total ⊢
      omega
  · obtain rfl := aside.same h later moves
    have fewer := aside.closer moves
    omega

theorem exists_item (h : s.InBatch i batchId orders bulk) (begun : k < bulk.begun) :
    ∃ call, .bulkItem i k call ∈ s.tasks := by
  have once : s.tasks.countP (Task.isItem i k) = 1 := (h.items k).trans (if_pos begun)
  obtain ⟨task, mem, item⟩ := List.countP_pos_iff.mp (Nat.lt_of_lt_of_eq Nat.zero_lt_one once.symm)
  cases task with
  | bulkItem other index call =>
    simp only [Task.isItem, Bool.and_eq_true, decide_eq_true_eq] at item
    obtain ⟨rfl, rfl⟩ := item
    exact ⟨call, mem⟩
  | _ => contradiction

theorem itemResults_isSome (h : s.InBatch i batchId orders (.executing batchId orders orders.length))
    (settled : ∀ (k : Nat) (call : CreateOrder), .bulkItem i k call ∈ s.tasks → call.settled = true) :
    ∃ results, s.itemResults i orders = some results := by
  apply mapM_isSome
  intro entry mem
  obtain ⟨k, found⟩ := List.getElem?_of_mem mem
  rw [List.getElem?_zipIdx] at found
  obtain ⟨orderItem, here, rfl⟩ := Option.map_eq_some_iff.mp found
  obtain ⟨call, there⟩ := h.exists_item (List.getElem?_eq_some_iff.mp here).1
  rw [List.findSome?_isSome_iff]
  refine ⟨_, there, ?_⟩
  rw [Nat.zero_add, Task.itemResult?, if_pos ⟨rfl, rfl⟩]
  exact itemResult_isSome (settled k call there)

def Stirs (env : Env) (i : Nat) (batchId : String) (s : State) : Prop :=
  ∃ l t, s.keepsBatch i batchId l = true ∧ s.ownStep i l = true ∧ (platform env).next s l = some t

theorem stirs_head (h : s.InBatch i batchId orders bulk)
    (stepped : BulkOrderService.step s.world bulk .ok = some (w', bulk')) : Stirs env i batchId s := by
  refine ⟨.settle i .ok, ⟨w', s.tasks.set i (.createBulkOrders bulk')⟩, rfl, ?_, ?_⟩
  · simp [ownStep, ownCall]
  · simp [platform, State.next, h.head, Task.step, stepped]

theorem stirs_item {call : CreateOrder} (mem : .bulkItem i k call ∈ s.tasks)
    (awaits : call.settled = false) : Stirs env i batchId s := by
  obtain ⟨j, found⟩ := List.getElem?_of_mem mem
  let outcomes : Outcomes := fun _ => .error (.error "socket hang up")
  obtain ⟨w', call', stepped⟩ : ∃ w' call', OrderService.step env s.world call (call.settles outcomes) =
      some (w', call') := OrderService.step_settles awaits
  refine ⟨.settle j (call.settles outcomes), ⟨w', s.tasks.set j (.bulkItem i k call')⟩, ?_, ?_, ?_⟩
  · cases call <;> rfl
  · simp [ownStep, ownCall, found, Task.itemOf]
  · simp [platform, State.next, found, Task.step, stepped]

theorem stirs (h : s.InBatch i batchId orders bulk) (unresolved : ∀ response, bulk ≠ .resolved response) :
    Stirs env i batchId s := by
  have named := h.of
  cases bulk with
  | initBatchRecord id requests => exact h.stirs_head rfl
  | prePersistAll id requests => exact h.stirs_head rfl
  | updateBatchRecord id requests results => exact h.stirs_head rfl
  | resolved response => exact absurd rfl (unresolved response)
  | rejected error => exact named.elim
  | executing id requests currentIndex =>
    obtain ⟨rfl, rfl, most⟩ := named
    by_cases unsettled : ∃ k call, .bulkItem i k call ∈ s.tasks ∧ call.settled = false
    · obtain ⟨k, call, mem, awaits⟩ := unsettled
      exact stirs_item mem awaits
    have settled (k : Nat) (call : CreateOrder) (mem : .bulkItem i k call ∈ s.tasks) :
        call.settled = true := by
      by_contra awaits
      exact unsettled ⟨k, call, mem, Bool.eq_false_iff.mpr awaits⟩
    cases item : requests[currentIndex]? with
    | some orderItem =>
      -- no item is pending, so the pool has a free worker
      have free : s.tasks.countP (Task.pendingItem i) = 0 := by
        apply List.countP_eq_zero.mpr
        intro task mem pending
        cases task with
        | bulkItem other index call =>
          simp only [Task.pendingItem, Bool.and_eq_true, decide_eq_true_eq] at pending
          obtain ⟨rfl, awaits⟩ := pending
          simp [settled index call mem] at awaits
        | _ => contradiction
      have worker := BulkOrderService.effectiveLimit_pos env.bulkConcurrencyLimit requests.length
      refine ⟨.startItem i, ⟨s.world, s.tasks.set i
        (.createBulkOrders (.executing id requests (currentIndex + 1))) ++
          [.bulkItem i currentIndex (OrderService.createOrder orderItem)]⟩, rfl, by simp [ownStep], ?_⟩
      simp [platform, State.next, h.head, item, free, worker]
    | none =>
      have all := List.getElem?_eq_none_iff.mp item
      obtain rfl : currentIndex = requests.length := Nat.le_antisymm most all
      obtain ⟨results, collected⟩ := h.itemResults_isSome settled
      refine ⟨.collect i, ⟨s.world, s.tasks.set i
        (.createBulkOrders (.updateBatchRecord id requests results))⟩, rfl, by simp [ownStep], ?_⟩
      simp [platform, State.next, h.head, collected]

end State.InBatch

/-! ## The run -/

theorem Task.Moves.itemOf (moved : task.Moves env w a w' task') : task'.itemOf i = task.itemOf i := by
  cases moved <;> rfl

theorem State.item_arrived (arrived : (platform env).Reaches (fun _ _ => True) (.init w) s)
    (mem : task ∈ s.tasks) (own : task.itemOf i = true) : i < s.tasks.length := by
  induction arrived generalizing task with
  | refl => contradiction
  | @step r t l earlier _ moved ih =>
    have moves := Moves.of_next moved
    have longer := State.length_le_of_next moves
    obtain ⟨j, found⟩ := List.getElem?_of_mem mem
    cases moves.came found with
    | kept before still => exact (ih (List.mem_of_getElem? before) own).trans_le longer
    | started request label last => cases request <;> contradiction
    | moved label awaiting step =>
      rw [step.itemOf] at own
      exact (ih (List.mem_of_getElem? awaiting) own).trans_le longer
    | item awaiting label item last =>
      cases of_decide_eq_true own
      exact (List.getElem?_eq_some_iff.mp awaiting).1.trans_le longer
    | wentOn awaiting label item => contradiction
    | collected awaiting => contradiction
    | died before => contradiction

theorem State.InBatch.start {s₀ : State}
    (arrived : (platform env).Reaches (fun _ _ => True) (.init w) s₀)
    (fresh : s₀.freshBatch batchId = true)
    (began : (platform env).next s₀ (.start (.createBulkOrders orders batchId)) = some s) :
    s.InBatch s₀.tasks.length batchId orders (.initBatchRecord batchId orders) := by
  cases Option.some.inj began
  simp only [State.freshBatch, Bool.and_eq_true, List.all_eq_true, decide_eq_true_eq] at fresh
  refine ⟨List.getElem?_concat_length, ⟨rfl, rfl⟩, ?_, fun k => ?_, fun _ none => by contradiction, ?_⟩
  · intro j task found other
    rcases getElem?_concat_cases found with before | ⟨last, -⟩
    · exact fresh.2 task (List.mem_of_getElem? before)
    · exact absurd last other
  · apply List.countP_eq_zero.mpr
    intro task mem item
    rcases List.mem_append.mp mem with before | last
    · exact Nat.lt_irrefl _ (State.item_arrived arrived before (Task.itemOf_of_isItem item))
    · cases List.mem_singleton.mp last
      contradiction
  · apply List.filter_eq_nil_iff.mpr
    intro batch mem same
    exact fresh.1 batch mem (of_decide_eq_true same)

theorem State.InBatch.ahead_start {s₀ : State}
    (arrived : (platform env).Reaches (fun _ _ => True) (.init w) s₀)
    (began : (platform env).next s₀ (.start (.createBulkOrders orders batchId)) = some s) :
    ahead s₀.tasks.length s (.initBatchRecord batchId orders) = 6 * orders.length + 4 := by
  cases Option.some.inj began
  have none : UniqueTable.totalOf (Task.itemAhead s₀.tasks.length) s₀.tasks = 0 := by
    by_contra some
    obtain ⟨task, mem, positive⟩ := UniqueTable.exists_of_totalOf_pos (Nat.pos_of_ne_zero some)
    have own : task.itemOf s₀.tasks.length = true := by
      cases task with
      | bulkItem bulk index call =>
        by_contra other
        simp only [Task.itemOf, decide_eq_true_eq] at other
        simp [Task.itemAhead, other] at positive
      | _ => contradiction
    exact Nat.lt_irrefl _ (State.item_arrived arrived mem own)
  rw [ahead, UniqueTable.totalOf_append, none]
  rfl

/-- A batch whose record can be written, among any other traffic: whatever its items come to, it never
rejects, its response and its record are right and say the same, the record reads `PROCESSING` until then,
and its steps are bounded and never stuck. -/
theorem batch_reported {s₀ s₁ : State} {own : Nat} (nonempty : orders ≠ [])
    (arrived : (platform env).Reaches (fun _ _ => True) (.init w) s₀)
    (fresh : s₀.freshBatch batchId = true)
    (began : (platform env).next s₀ (.start (.createBulkOrders orders batchId)) = some s₁)
    (ran : ((platform env).observed (State.noteOwn s₀.tasks.length)).Reaches
      (fun s l => s.1.keepsBatch s₀.tasks.length batchId l = true) (s₁, 0) (s, own)) :
    s.BatchKept s₀.tasks.length batchId orders ∧ own ≤ 6 * orders.length + 4 ∧
      ((∃ response, s.tasks[s₀.tasks.length]? = some (.createBulkOrders (.resolved response))) ∨
        ∃ l t, s.keepsBatch s₀.tasks.length batchId l = true ∧ s.ownStep s₀.tasks.length l = true ∧
          (platform env).next s l = some t) := by
  obtain ⟨bulk, inside, bounded⟩ : ∃ bulk, s.InBatch s₀.tasks.length batchId orders bulk ∧
      own + State.InBatch.ahead s₀.tasks.length s bulk ≤ 6 * orders.length + 4 := by
    apply @Machine.Reaches.observed_invariant _ _ _
      (fun s l => s.keepsBatch s₀.tasks.length batchId l = true) _ _ _ _ _ _
      (fun s own => ∃ bulk, s.InBatch s₀.tasks.length batchId orders bulk ∧
        own + State.InBatch.ahead s₀.tasks.length s bulk ≤ 6 * orders.length + 4) _ _ ran
    · have rank := State.InBatch.ahead_start arrived began
      exact ⟨_, .start arrived fresh began, by omega⟩
    · rintro a l b own ⟨bulk, inside, bounded⟩ kept moved
      obtain ⟨bulk', later⟩ := inside.next kept moved
      have closer := inside.closer later (State.Moves.of_next moved)
      refine ⟨bulk', later, ?_⟩
      unfold State.noteOwn
      omega
  refine ⟨inside.kept nonempty, by omega, ?_⟩
  by_cases resolved : ∃ response, bulk = .resolved response
  · obtain ⟨response, rfl⟩ := resolved
    exact .inl ⟨response, inside.head⟩
  · exact .inr (inside.stirs fun response same => resolved ⟨response, same⟩)

end

theorem batch_reported_partly :
    ∃ (s : State) (own : Nat) (response : BulkOrderResponse),
      response.successfulOrders = 1 ∧ response.failedOrders = 1 ∧ own ≤ 6 * 2 + 4 ∧
        s.BatchReported 0 "B-1" [parcel "A-1" "mock", parcel "A-2" "mock"] response := by
  obtain ⟨⟨s, own⟩, ran, test⟩ := Machine.Reaches.of_run_any
    (production.observed (State.noteOwn 0)) (fun s l => s.1.keepsBatch 0 "B-1" l = true)
    (⟨.empty, [.createBulkOrders
      (BulkOrderService.createBulkOrders [parcel "A-1" "mock", parcel "A-2" "mock"] "B-1")]⟩, 0)
    [.settle 0 .ok, .settle 0 .ok, .startItem 0, .start (.cancelOrder "A-2" none), .startItem 0,
      .settle 3 .ok, .settle 1 .ok, .settle 3 .ok, .settle 1 .ok,
      .settle 3 (.refused (.error "timeout")), .settle 1 (.booked (bookingReply (parcel "A-1" "mock") "MCK1")),
      .settle 3 .ok, .settle 1 .ok, .collect 0, .settle 0 .ok]
    (fun s => (s.1.tasks[0]?.bind Task.bulkResponse?).any fun response =>
      response.successfulOrders = 1 && response.failedOrders = 1) (by decide)
  obtain ⟨response, answered, counts⟩ := (Option.any_eq_true _ _).mp test
  obtain ⟨task, head, same⟩ := Option.bind_eq_some_iff.mp answered
  cases Task.eq_of_bulkResponse? same
  simp only [Bool.and_eq_true, decide_eq_true_eq] at counts
  have arrived : production.Reaches (fun _ _ => True) (.init .empty) (.init .empty) := .refl
  obtain ⟨kept, bounded, -⟩ := batch_reported (List.cons_ne_nil _ _) arrived rfl rfl ran
  exact ⟨s, own, response, counts.1, counts.2, bounded, (kept.resolved response head).2⟩

end CourierPlatform
