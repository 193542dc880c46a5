import CourierPlatform.Proofs.CallSubjects
import CourierPlatform.Spec.BatchRecords

/-! The records of batches over whole runs. A record is opened and summed up by one call, whatever else
runs, fails or dies. -/
namespace CourierPlatform
open Library BulkOrderService

variable {env : Env} {s t : State} {l : Label} {requests : List Request}

/-! ## The summary -/

theorem BulkBatch.Open.processing {batch : BulkBatch} (h : batch.Open) :
    batch.status = .processing := by
  rw [h]
  rfl

theorem resultsName_length {orders : List NormalizedCreateOrderRequest}
    {results : List BulkOrderItemResult} (h : resultsName orders results) :
    results.length = orders.length := by
  have same := congrArg List.length h
  rwa [List.length_map, List.length_map] at same

theorem successfulOrders_eq (results : List BulkOrderItemResult) :
    successfulOrders results = results.countP (·.status ≠ .failed) := by
  apply List.countP_congr
  intro result mem
  cases result.status <;> decide

theorem failedOrders_eq (results : List BulkOrderItemResult) :
    results.length - successfulOrders results = results.countP (·.status = .failed) := by
  have all := List.length_eq_countP_add_countP (·.status = .failed) (l := results)
  have others : results.countP (fun r => decide ¬decide (r.status = .failed) = true) =
      successfulOrders results := by
    rw [successfulOrders_eq]
    apply List.countP_congr
    intro result mem
    simp
  omega

theorem finalStatus_ended (successful failed : Nat) :
    finalStatus successful failed ≠ .processing ∧
      (finalStatus successful failed = .completed ↔ failed = 0) ∧
      (finalStatus successful failed = .partialSuccess ↔ failed ≠ 0 ∧ successful ≠ 0) := by
  unfold finalStatus
  by_cases none : failed = 0
  · simp [none]
  · by_cases all : successful = 0 <;> simp [none, all]

theorem finalBatch_final {batchId : String} {orders : List NormalizedCreateOrderRequest}
    {results : List BulkOrderItemResult} (named : resultsName orders results) :
    (finalBatch batchId orders.length results).Final orders := by
  obtain ⟨ended, completed, partialSuccess⟩ :=
    finalStatus_ended (successfulOrders results) (orders.length - successfulOrders results)
  refine ⟨named, successfulOrders_eq results, ?_, ended, completed, partialSuccess⟩
  rw [← resultsName_length named]
  exact failedOrders_eq results

/-! ## Calls and their records -/

namespace BulkOrder

def batch? : BulkOrder → Option String
  | initBatchRecord batchId _ => some batchId
  | prePersistAll batchId _ => some batchId
  | executing batchId _ _ => some batchId
  | updateBatchRecord batchId _ _ => some batchId
  | resolved response => some response.batchId
  | rejected _ => none

def Keeps (batches : List BulkBatch) (requests : List Request) : BulkOrder → Prop
  | initBatchRecord batchId orders =>
    .createBulkOrders orders batchId ∈ requests ∧ ∀ batch ∈ batches, batch.batchId ≠ batchId
  | prePersistAll batchId orders =>
    .createBulkOrders orders batchId ∈ requests ∧ initialBatch batchId orders.length ∈ batches
  | executing batchId orders _ =>
    .createBulkOrders orders batchId ∈ requests ∧ initialBatch batchId orders.length ∈ batches
  | updateBatchRecord batchId orders results =>
    .createBulkOrders orders batchId ∈ requests ∧ initialBatch batchId orders.length ∈ batches ∧
      resultsName orders results
  | resolved response =>
    finalBatch response.batchId response.totalOrders response.results ∈ batches ∧
      response = BulkOrderService.response response.batchId response.totalOrders response.results
  | rejected _ => True

variable {w w' : World} {call call' other : BulkOrder} {a : Answer}

theorem Keeps.mono {batches : List BulkBatch} {more : List Request}
    (keeps : call.Keeps batches requests) (sub : requests ⊆ more) : call.Keeps batches more := by
  cases call with
  | initBatchRecord batchId orders => exact ⟨sub keeps.1, keeps.2⟩
  | prePersistAll batchId orders => exact ⟨sub keeps.1, keeps.2⟩
  | executing batchId orders currentIndex => exact ⟨sub keeps.1, keeps.2⟩
  | updateBatchRecord batchId orders results => exact ⟨sub keeps.1, keeps.2⟩
  | resolved response => exact keeps
  | rejected error => trivial

theorem Keeps.asked {batches : List BulkBatch} {batchId : String} (keeps : call.Keeps batches requests)
    (records : ∀ batch ∈ batches, batch.Recorded requests) (named : call.batch? = some batchId) :
    ∃ orders, .createBulkOrders orders batchId ∈ requests := by
  cases call with
  | resolved response =>
    cases named
    obtain ⟨orders, asked, -⟩ := records _ keeps.1
    exact ⟨orders, asked⟩
  | rejected error => contradiction
  | _ =>
    cases named
    exact ⟨_, keeps.1⟩

theorem Moves.batch? {batchId : String} (moved : BulkOrderService.Moves w call a w' call')
    (named : call'.batch? = some batchId) : call.batch? = some batchId := by
  cases moved with
  | failed awaits => contradiction
  | _ => exact named

theorem Keeps.step (keeps : call.Keeps w.batches requests)
    (moved : BulkOrderService.Moves w call a w' call') : call'.Keeps w'.batches requests := by
  cases moved with
  | batchCreated => exact ⟨keeps.1, List.mem_append_right _ (List.mem_singleton_self _)⟩
  | prePersisted => exact keeps
  | notPrePersisted => exact keeps
  | summarized => exact ⟨List.mem_map.mpr ⟨_, keeps.2.1, if_pos rfl⟩, rfl⟩
  | failed awaits => trivial

theorem Keeps.aside (keeps : other.Keeps w.batches requests)
    (moved : BulkOrderService.Moves w call a w' call')
    (apart : ∀ batchId, call.batch? = some batchId → other.batch? ≠ some batchId) :
    other.Keeps w'.batches requests := by
  have stays {kept summary : BulkBatch} (mem : kept ∈ w.batches)
      (differs : kept.batchId ≠ summary.batchId) : kept ∈ replaceBatch summary w.batches :=
    List.mem_map.mpr ⟨kept, mem, if_neg differs⟩
  cases moved with
  | @batchCreated batchId orders =>
    cases other with
    | initBatchRecord own ownOrders =>
      refine ⟨keeps.1, fun batch mem => ?_⟩
      rcases List.mem_append.mp mem with earlier | new
      · exact keeps.2 batch earlier
      · rw [List.mem_singleton.mp new]
        exact fun same => apart batchId rfl (congrArg some same.symm)
    | prePersistAll own ownOrders => exact ⟨keeps.1, List.mem_append_left _ keeps.2⟩
    | executing own ownOrders currentIndex => exact ⟨keeps.1, List.mem_append_left _ keeps.2⟩
    | updateBatchRecord own ownOrders results =>
      exact ⟨keeps.1, List.mem_append_left _ keeps.2.1, keeps.2.2⟩
    | resolved response => exact ⟨List.mem_append_left _ keeps.1, keeps.2⟩
    | rejected error => trivial
  | @summarized batchId orders results =>
    have differs {own : String} (named : other.batch? = some own) : own ≠ batchId :=
      fun same => apart batchId rfl (same ▸ named)
    cases other with
    | initBatchRecord own ownOrders =>
      refine ⟨keeps.1, fun batch mem => ?_⟩
      obtain ⟨before, earlier, same⟩ := List.mem_map.mp mem
      have kept : batch.batchId = before.batchId := by
        rw [← same]
        split
        next replaced => exact replaced.symm
        next => rfl
      rw [kept]
      exact keeps.2 before earlier
    | prePersistAll own ownOrders => exact ⟨keeps.1, stays keeps.2 (differs rfl)⟩
    | executing own ownOrders currentIndex => exact ⟨keeps.1, stays keeps.2 (differs rfl)⟩
    | updateBatchRecord own ownOrders ownResults =>
      exact ⟨keeps.1, stays keeps.2.1 (differs rfl), keeps.2.2⟩
    | resolved response => exact ⟨stays keeps.1 (differs rfl), keeps.2⟩
    | rejected error => trivial
  | _ => exact keeps

end BulkOrder

/-! ## The ledger -/

/-- The records of a state, and what its calls hold of them. -/
structure State.Ledger (requests : List Request) (s : State) : Prop where
  records : ∀ batch ∈ s.world.batches, batch.Recorded requests
  distinct : (s.world.batches.map BulkBatch.batchId).Nodup
  calls : ∀ (i : Nat) (call : BulkOrder), s.tasks[i]? = some (.createBulkOrders call) →
    call.Keeps s.world.batches requests
  apart : ∀ (i j : Nat) (call other : BulkOrder) (batchId : String),
    s.tasks[i]? = some (.createBulkOrders call) → s.tasks[j]? = some (.createBulkOrders other) →
      call.batch? = some batchId → other.batch? = some batchId → i = j

theorem BulkBatch.Recorded.mono {batch : BulkBatch} {more : List Request} (h : batch.Recorded requests)
    (sub : requests ⊆ more) : batch.Recorded more := by
  obtain ⟨orders, asked, rest⟩ := h
  exact ⟨orders, sub asked, rest⟩

namespace State.Ledger

theorem init : (State.init .empty).Ledger [] where
  records _ mem := nomatch mem
  distinct := List.nodup_nil
  calls _ _ here := nomatch here
  apart _ _ _ _ _ here := nomatch here

theorem of_same (h : s.Ledger requests) (same : t.world.batches = s.world.batches)
    (follows : ∀ (j : Nat) (call : BulkOrder), t.tasks[j]? = some (.createBulkOrders call) →
      ∃ before, s.tasks[j]? = some (.createBulkOrders before) ∧
        (before.Keeps s.world.batches requests → call.Keeps s.world.batches requests) ∧
        ∀ batchId, call.batch? = some batchId → before.batch? = some batchId) :
    t.Ledger requests := by
  refine ⟨same ▸ h.records, same ▸ h.distinct, ?_, ?_⟩
  · intro i call here
    obtain ⟨before, earlier, keeps, -⟩ := follows i call here
    rw [same]
    exact keeps (h.calls i before earlier)
  · intro i j call other batchId here there named alsoNamed
    obtain ⟨before, earlier, -, batch⟩ := follows i call here
    obtain ⟨before', earlier', -, batch'⟩ := follows j other there
    exact h.apart i j before before' batchId earlier earlier' (batch _ named) (batch' _ alsoNamed)

theorem opened {batchId : String} {orders : List NormalizedCreateOrderRequest} {batch : BulkBatch}
    (h : s.Ledger requests) (created : initialBatch batchId orders.length ∈ s.world.batches)
    (mem : batch ∈ s.world.batches) (own : batch.batchId = batchId) :
    batch = initialBatch batchId orders.length :=
  List.inj_on_of_nodup_map h.distinct mem created own

theorem written {i : Nat} {call call' : BulkOrder} {w' : World} {a : Answer} (h : s.Ledger requests)
    (here : s.tasks[i]? = some (.createBulkOrders call))
    (moved : BulkOrderService.Moves s.world call a w' call') :
    (∀ batch ∈ w'.batches, batch.Recorded requests) ∧ (w'.batches.map BulkBatch.batchId).Nodup ∧
      ∀ (k : Nat) (batch : BulkBatch), s.world.batches[k]? = some batch →
        ∃ later, w'.batches[k]? = some later ∧ batch.Becomes later := by
  have keeps := h.calls i call here
  cases moved with
  | @batchCreated batchId orders =>
    refine ⟨fun batch mem => ?_, ?_, fun k batch found => ?_⟩
    · rcases List.mem_append.mp mem with earlier | new
      · exact h.records batch earlier
      · cases List.mem_singleton.mp new
        exact ⟨orders, keeps.1, rfl, .inl rfl⟩
    · rw [List.map_append, List.map_cons, List.map_nil]
      refine List.nodup_append.mpr ⟨h.distinct, List.nodup_singleton _, ?_⟩
      rintro own mem other new rfl
      obtain ⟨batch, earlier, same⟩ := List.mem_map.mp mem
      exact keeps.2 batch earlier (same.trans (List.mem_singleton.mp new))
    · exact ⟨batch, getElem?_append_of_some found, .inl rfl⟩
  | @summarized batchId orders results =>
    obtain ⟨asked, created, named⟩ := keeps
    have final : (finalBatch batchId orders.length results).Final orders := finalBatch_final named
    refine ⟨fun batch mem => ?_, ?_, fun k batch found => ?_⟩
    · obtain ⟨before, earlier, same⟩ := List.mem_map.mp mem
      split at same
      next own =>
        subst same
        exact ⟨orders, asked, rfl, .inr final⟩
      next other =>
        subst same
        exact h.records before earlier
    · have same : (replaceBatch (finalBatch batchId orders.length results) s.world.batches).map
          BulkBatch.batchId = s.world.batches.map BulkBatch.batchId := by
        rw [replaceBatch, List.map_map]
        refine List.map_congr_left fun batch mem => ?_
        rw [Function.comp_apply]
        split
        next own => exact own.symm
        next other => rfl
      exact same ▸ h.distinct
    · simp only [replaceBatch, List.getElem?_map, found, Option.map_some]
      refine ⟨_, rfl, ?_⟩
      split
      next own =>
        have opened := h.opened created (List.mem_of_getElem? found) own
        rw [opened]
        exact .inr ⟨rfl, rfl, rfl, final.ended⟩
      next other => exact .inl rfl
  | _ => exact ⟨h.records, h.distinct, fun k batch found => ⟨batch, found, .inl rfl⟩⟩

theorem settle {i : Nat} {call call' : BulkOrder} {w' : World} {a : Answer} (h : s.Ledger requests)
    (here : s.tasks[i]? = some (.createBulkOrders call))
    (moved : BulkOrderService.Moves s.world call a w' call') :
    State.Ledger requests ⟨w', s.tasks.set i (.createBulkOrders call')⟩ := by
  obtain ⟨records, distinct, -⟩ := h.written here moved
  refine ⟨records, distinct, ?_, ?_⟩
  · intro j other there
    rcases getElem?_set_cases there with ⟨differs, before⟩ | ⟨rfl, same⟩
    · refine (h.calls j other before).aside moved fun batchId named alsoNamed => ?_
      exact differs (h.apart j i other call batchId before here alsoNamed named)
    · cases same
      exact (h.calls _ call here).step moved
  · have came {j : Nat} {other : BulkOrder} {batchId : String}
        (there : (s.tasks.set i (.createBulkOrders call'))[j]? = some (.createBulkOrders other))
        (named : other.batch? = some batchId) :
        ∃ before, s.tasks[j]? = some (.createBulkOrders before) ∧ before.batch? = some batchId := by
      rcases getElem?_set_cases there with ⟨-, before⟩ | ⟨rfl, same⟩
      · exact ⟨other, before, named⟩
      · cases same
        exact ⟨call, here, BulkOrder.Moves.batch? moved named⟩
    intro j k other another batchId there yonder named alsoNamed
    obtain ⟨before, earlier, batch⟩ := came there named
    obtain ⟨before', earlier', batch'⟩ := came yonder alsoNamed
    exact h.apart j k before before' batchId earlier earlier' batch batch'

theorem start {orders : List NormalizedCreateOrderRequest} {batchId : String} (h : s.Ledger requests)
    (fresh : freshBatchIds (s, requests) (.start (.createBulkOrders orders batchId)) = true) :
    State.Ledger (requests ++ [.createBulkOrders orders batchId])
      ⟨s.world, s.tasks ++ [.createBulkOrders (createBulkOrders orders batchId)]⟩ := by
  have unasked (earlier : List NormalizedCreateOrderRequest) :
      .createBulkOrders earlier batchId ∉ requests := by
    intro asked
    have differs := List.all_eq_true.mp fresh _ asked
    simp [Request.batchId?] at differs
  have sub : requests ⊆ requests ++ [.createBulkOrders orders batchId] := List.subset_append_left _ _
  have later {j : Nat} {call : BulkOrder} {own : String}
      (here : s.tasks[j]? = some (.createBulkOrders call)) (named : call.batch? = some own) :
      own ≠ batchId := by
    rintro rfl
    obtain ⟨earlier, asked⟩ := (h.calls j call here).asked h.records named
    exact unasked earlier asked
  refine ⟨fun batch mem => (h.records batch mem).mono sub, h.distinct, ?_, ?_⟩
  · intro j call here
    rcases getElem?_concat_cases here with before | ⟨-, same⟩
    · exact (h.calls j call before).mono sub
    · cases same
      refine ⟨List.mem_append_right _ (List.mem_singleton_self _), fun batch mem own => ?_⟩
      obtain ⟨earlier, asked, -⟩ := h.records batch mem
      exact unasked earlier (own ▸ asked)
  · intro j k call other own here there named alsoNamed
    rcases getElem?_concat_cases here with before | ⟨last, same⟩ <;>
      rcases getElem?_concat_cases there with before' | ⟨last', same'⟩
    · exact h.apart j k call other own before before' named alsoNamed
    · cases same'
      cases alsoNamed
      exact absurd rfl (later before named)
    · cases same
      cases named
      exact absurd rfl (later before' alsoNamed)
    · exact last.trans last'.symm

theorem mono {more : List Request} (h : s.Ledger requests) (sub : requests ⊆ more) : s.Ledger more :=
  ⟨fun batch mem => (h.records batch mem).mono sub, h.distinct,
    fun i call here => (h.calls i call here).mono sub, h.apart⟩

end State.Ledger

theorem Task.Moves.writes {w w' : World} {task task' : Task} {a : Answer}
    (moved : task.Moves env w a w' task') :
    (w'.batches = w.batches ∧ ∀ call, task' ≠ .createBulkOrders call) ∨
      ∃ call call', task = .createBulkOrders call ∧ task' = .createBulkOrders call' ∧
        BulkOrderService.Moves w call a w' call' := by
  cases moved with
  | createOrder moved => exact .inl ⟨moved.batches, fun _ => Task.noConfusion⟩
  | bulkItem moved => exact .inl ⟨moved.batches, fun _ => Task.noConfusion⟩
  | createBulkOrders moved => exact .inr ⟨_, _, rfl, rfl, moved⟩
  | trackOrder moved => cases moved <;> exact .inl ⟨rfl, fun _ => Task.noConfusion⟩
  | cancelOrder moved => cases moved <;> exact .inl ⟨rfl, fun _ => Task.noConfusion⟩
  | reconcile moved => cases moved <;> exact .inl ⟨rfl, fun _ => Task.noConfusion⟩

theorem State.Ledger.next (h : s.Ledger requests) (fresh : freshBatchIds (s, requests) l = true)
    (moves : State.Moves env s l t) : t.Ledger (noteRequest s l t requests) ∧
      ∀ (k : Nat) (batch : BulkBatch), s.world.batches[k]? = some batch →
        ∃ later, t.world.batches[k]? = some later ∧ batch.Becomes later := by
  have unwritten (k : Nat) (batch : BulkBatch) (found : s.world.batches[k]? = some batch) :
      ∃ later, s.world.batches[k]? = some later ∧ batch.Becomes later := ⟨batch, found, .inl rfl⟩
  have unmoved {j : Nat} {call : BulkOrder} (before : s.tasks[j]? = some (.createBulkOrders call)) :
      ∃ before, s.tasks[j]? = some (.createBulkOrders before) ∧
        (before.Keeps s.world.batches requests → call.Keeps s.world.batches requests) ∧
        ∀ batchId, call.batch? = some batchId → before.batch? = some batchId :=
    ⟨call, before, id, fun _ => id⟩
  cases moves with
  | started request =>
    cases request with
    | createBulkOrders orders batchId => exact ⟨h.start fresh, unwritten⟩
    | _ =>
      refine ⟨State.Ledger.mono ?_ (List.subset_append_left _ _), unwritten⟩
      refine h.of_same rfl fun j call here => ?_
      rcases getElem?_concat_cases here with before | ⟨-, other⟩
      · exact unmoved before
      · contradiction
  | settled awaiting moved =>
    rcases moved.writes with ⟨same, notBatch⟩ | ⟨call, call', rfl, rfl, step⟩
    · refine ⟨h.of_same same fun j call here => ?_, fun k batch found => ⟨batch, same ▸ found, .inl rfl⟩⟩
      rcases getElem?_set_cases here with ⟨-, before⟩ | ⟨-, other⟩
      · exact unmoved before
      · exact absurd other.symm (notBatch call)
    · exact ⟨h.settle awaiting step, (h.written awaiting step).2.2⟩
  | @itemStarted i batchId orders currentIndex orderItem awaiting item =>
    refine ⟨h.of_same rfl fun j call here => ?_, unwritten⟩
    rcases getElem?_concat_cases here with here | ⟨-, other⟩
    · rcases getElem?_set_cases here with ⟨-, before⟩ | ⟨rfl, same⟩
      · exact unmoved before
      · cases same
        exact ⟨_, awaiting, id, fun _ => id⟩
    · contradiction
  | collected awaiting all settled =>
    refine ⟨h.of_same rfl fun j call here => ?_, unwritten⟩
    rcases getElem?_set_cases here with ⟨-, before⟩ | ⟨rfl, same⟩
    · exact unmoved before
    · cases same
      exact ⟨_, awaiting, fun keeps => ⟨keeps.1, keeps.2, State.itemResults_name settled⟩, fun _ => id⟩
  | died dead =>
    refine ⟨h.of_same rfl fun j call here => ?_, unwritten⟩
    rw [List.getElem?_mapIdx] at here
    obtain ⟨before, earlier, same⟩ := Option.map_eq_some_iff.mp here
    split at same
    next => contradiction
    next =>
      subst same
      exact unmoved earlier
  | ticked ms => exact ⟨h.of_same rfl fun j call here => unmoved here, unwritten⟩

theorem State.Ledger.getBatchStatus_iff {batchId : String} {batch : BulkBatch} (h : s.Ledger requests) :
    getBatchStatus s.world batchId = some batch ↔ batch ∈ s.world.batches ∧ batch.batchId = batchId := by
  constructor
  · intro found
    exact ⟨List.mem_of_find?_eq_some found, by simpa using List.find?_some found⟩
  · rintro ⟨mem, rfl⟩
    cases found : getBatchStatus s.world batch.batchId with
    | none =>
      have absent := List.find?_eq_none.mp found batch mem
      simp at absent
    | some other =>
      have own : other.batchId = batch.batchId := by simpa using List.find?_some found
      rw [List.inj_on_of_nodup_map h.distinct (List.mem_of_find?_eq_some found) mem own]

theorem BulkBatch.Becomes.batchId {batch later : BulkBatch} (h : batch.Becomes later) :
    later.batchId = batch.batchId := by
  rcases h with rfl | ⟨-, own, -⟩
  · rfl
  · exact own

theorem BulkBatch.Becomes.trans {first second third : BulkBatch} (h : first.Becomes second)
    (h' : second.Becomes third) : first.Becomes third := by
  rcases h with rfl | ⟨opened, own, total, ended⟩
  · exact h'
  · rcases h' with rfl | ⟨reopened, -⟩
    · exact .inr ⟨opened, own, total, ended⟩
    · exact absurd reopened.processing ended

/-- Whatever runs, fails or dies, batches have one record each: the one as it was opened, or the final
one, whose counts and status are those of its results, one for each order. A final record is never
written again, and it is the one that the client of a finished batch was told. -/
theorem batch_records_settle {earlier requests : List Request}
    (reach : ((platform env).observed noteRequest).Reaches (fun s l => freshBatchIds s l = true)
      (.init .empty, []) (s, earlier))
    (later : ((platform env).observed noteRequest).Reaches (fun s l => freshBatchIds s l = true)
      (s, earlier) (t, requests)) :
    (∀ batch ∈ t.world.batches,
      getBatchStatus t.world batch.batchId = some batch ∧ batch.Recorded requests) ∧
    (∀ batchId batch, getBatchStatus s.world batchId = some batch →
      ∃ after, getBatchStatus t.world batchId = some after ∧ batch.Becomes after) ∧
    ∀ (i : Nat) (response : BulkOrderResponse),
      s.tasks[i]? = some (.createBulkOrders (.resolved response)) →
        ∃ batch, getBatchStatus t.world response.batchId = some batch ∧
          batch.totalOrders = response.totalOrders ∧ batch.results = response.results ∧
          batch.successfulOrders = response.successfulOrders ∧
          batch.failedOrders = response.failedOrders ∧ batch.status ≠ .processing := by
  have kept : s.Ledger earlier := by
    refine reach.invariant (fun r => r.1.Ledger r.2) .init ?_
    intro a l b inv fresh moved
    obtain ⟨b', stepped, same⟩ := Option.map_eq_some_iff.mp moved
    cases same
    exact (inv.next fresh (.of_next stepped)).1
  have grown : t.Ledger requests ∧ ∀ (k : Nat) (batch : BulkBatch), s.world.batches[k]? = some batch →
      ∃ after, t.world.batches[k]? = some after ∧ batch.Becomes after := by
    refine later.invariant (fun r => r.1.Ledger r.2 ∧ ∀ (k : Nat) (batch : BulkBatch),
      s.world.batches[k]? = some batch → ∃ after, r.1.world.batches[k]? = some after ∧
        batch.Becomes after) ⟨kept, fun k batch found => ⟨batch, found, .inl rfl⟩⟩ ?_
    intro a l b inv fresh moved
    obtain ⟨b', stepped, same⟩ := Option.map_eq_some_iff.mp moved
    cases same
    obtain ⟨next, becomes⟩ := inv.1.next fresh (.of_next stepped)
    refine ⟨next, fun k batch found => ?_⟩
    obtain ⟨middle, here, first⟩ := inv.2 k batch found
    obtain ⟨after, there, second⟩ := becomes k middle here
    exact ⟨after, there, first.trans second⟩
  have became {batchId : String} {batch : BulkBatch}
      (found : getBatchStatus s.world batchId = some batch) :
      ∃ after, getBatchStatus t.world batchId = some after ∧ batch.Becomes after := by
    obtain ⟨mem, rfl⟩ := kept.getBatchStatus_iff.mp found
    obtain ⟨k, here⟩ := List.getElem?_of_mem mem
    obtain ⟨after, there, becomes⟩ := grown.2 k batch here
    exact ⟨after, grown.1.getBatchStatus_iff.mpr ⟨List.mem_of_getElem? there, becomes.batchId⟩, becomes⟩
  refine ⟨fun batch mem => ?_, fun batchId batch => became, fun i response resolved => ?_⟩
  · exact ⟨grown.1.getBatchStatus_iff.mpr ⟨mem, rfl⟩, grown.1.records batch mem⟩
  · obtain ⟨recorded, answer⟩ := kept.calls i _ resolved
    have ended := (finalStatus_ended (successfulOrders response.results)
      (response.totalOrders - successfulOrders response.results)).1
    obtain ⟨after, there, same | ⟨opened, -⟩⟩ := became (kept.getBatchStatus_iff.mpr ⟨recorded, rfl⟩)
    · subst same
      exact ⟨_, there, rfl, rfl, by rw [answer]; rfl, by rw [answer]; rfl, ended⟩
    · exact absurd opened.processing ended

theorem batch_records_settle_partly : ∃ (t : State) (batch : BulkBatch),
    t.tasks.all Task.settled ∧ getBatchStatus t.world "B-1" = some batch ∧ batch.totalOrders = 2 ∧
      batch.successfulOrders = 1 ∧ batch.failedOrders = 1 ∧ batch.status ≠ .processing := by
  let production' := production.observed noteRequest
  obtain ⟨⟨s, earlier⟩, reach, first⟩ := Machine.Reaches.of_run_any production'
    (fun s l => freshBatchIds s l = true) (.init .empty, [])
    [.start (.createBulkOrders [parcel "A-1" "mock", parcel "A-2" "mock"] "B-1"), .settle 0 .ok,
      .settle 0 .ok, .startItem 0, .startItem 0, .settle 1 .ok, .settle 2 .ok, .settle 1 .ok,
      .settle 2 .ok, .settle 1 (.refused (.error "timeout")),
      .settle 2 (.booked (bookingReply (parcel "A-2" "mock") "MCK2")), .settle 1 .ok, .settle 2 .ok,
      .collect 0, .settle 0 .ok]
    (fun s => ((s.1.tasks[0]?.bind Task.bulkResponse?).any fun response =>
        response.batchId = "B-1" && response.totalOrders = 2 && response.successfulOrders = 1 &&
          response.failedOrders = 1) &&
      (production'.run (fun s l => freshBatchIds s l = true) s [.crash [0, 1, 2]]).any
        fun t => t.1.tasks.all Task.settled) (by decide)
  simp only [Bool.and_eq_true] at first
  obtain ⟨told, rest⟩ := first
  obtain ⟨⟨t, requests⟩, later, settled⟩ := Machine.Reaches.of_run_any production' _ (s, earlier) _ _ rest
  obtain ⟨response, answered, counts⟩ := (Option.any_eq_true _ _).mp told
  obtain ⟨task, head, same⟩ := Option.bind_eq_some_iff.mp answered
  cases Task.eq_of_bulkResponse? same
  simp only [Bool.and_eq_true, decide_eq_true_eq] at counts
  obtain ⟨⟨⟨named, total⟩, successful⟩, failed⟩ := counts
  obtain ⟨batch, found, rest⟩ := (batch_records_settle reach later).2.2 0 response head
  exact ⟨t, batch, settled, named ▸ found, rest.1.trans total, rest.2.2.1.trans successful,
    rest.2.2.2.1.trans failed, rest.2.2.2.2⟩

end CourierPlatform
