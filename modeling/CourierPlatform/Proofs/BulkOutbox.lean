import CourierPlatform.Proofs.RetryBudget
import CourierPlatform.Proofs.StoredAwb

/-! What a batch leaves on disk when its process dies. The bulk insert skips orders that have
a row, so it secures the new orders only; the others are as safe as their rows were. A refusal is
recorded before the call that it ends returns. -/
namespace CourierPlatform
open Library

/-- The row is booked, or the worker will select it. -/
def Env.secured (env : Env) (row : Order) : Bool :=
  row.awbNumber.isSome || row.status = .pendingDispatch && env.hasBudget row

/-- The item whose failed attempt a call is about to record, and the order it names. -/
def Task.audits? : Task → Option (Nat × String)
  | bulkItem _ index (.updateFailed _ persistedOrder _) => some (index, persistedOrder.orderId)
  | _ => none

def State.records? (s : State) : Label → Option (Nat × String)
  | .settle i .ok => (s.tasks[i]?.bind Task.audits?).filter fun audit =>
    (s.world.findOne audit.2).any (·.awbNumber.isNone)
  | _ => none

def Label.underWay : Label → Bool
  | start _ => false
  | crash _ => false
  | _ => true

def Task.settledItem (index : Nat) : Task → Bool
  | bulkItem _ k call => k = index && call.settled
  | _ => false

/-- A batch from its bulk insert on. A write is committed before the call that has issued it goes on, and
the process may die in between: so the return of an item's `createOrder` call is a step of its own.
`recorded` are the items that have written a failed attempt to a row without AWB, `returned` those whose
call has returned. -/
structure OutboxRun where
  platform : State
  recorded : List Nat := []
  returned : List Nat := []

inductive OutboxLabel where
  | platform (l : Label)
  /-- The `createOrder` call of this item returns. -/
  | returns (index : Nat)

namespace OutboxRun

variable (s : OutboxRun)

def next (env : Env) : OutboxLabel → Option OutboxRun
  | .platform l => (State.next env s.platform l).map fun platform =>
    { s with
      platform
      recorded := s.recorded ++ ((s.platform.records? l).map Prod.fst).toList }
  | .returns index =>
    if s.platform.tasks.any (Task.settledItem index) then
      some { s with returned := s.returned ++ [index] }
    else none

def underWay (_ : OutboxRun) : OutboxLabel → Bool
  | .platform l => l.underWay
  | .returns _ => true

/-- The process is alive, and no failed attempt is recorded for an order without AWB of which another item
is still to return. -/
def guarded (orders : List NormalizedCreateOrderRequest) : OutboxLabel → Bool
  | .platform l => l.underWay && (s.platform.records? l).all fun record =>
    orders.zipIdx.all fun item =>
      item.1.orderId ≠ record.2 || item.2 = record.1 || item.2 ∈ s.returned
  | .returns _ => true

end OutboxRun

def outbox (env : Env) : Machine OutboxRun OutboxLabel := ⟨fun s l => s.next env l⟩

def Task.ofBatch : Task → Bool
  | createBulkOrders _ => true
  | bulkItem _ _ _ => true
  | crashed => true
  | _ => false

section
variable {env : Env} {now : Int} {x : String} {task task' : Task} {a : Answer}
  {before after : Option (Stage × Order)} {row' : Option Order} {row : Order}
  {calls : List (Except Thrown NormalizedCreateOrderResponse)} {w w' : World}

theorem Env.secured_of_awb (awb : row.awbNumber ≠ none) : env.secured row = true := by
  rw [secured, Option.isSome_iff_ne_none.mpr awb, Bool.true_or]

theorem Env.secured_prePersisted {mode : UpdateMode} {loaded : Order}
    (orderData : NormalizedCreateOrderRequest) (h : env.secured row = true) :
    env.secured (row.write mode now loaded (OrderService.pendingPatch orderData)) = true := by
  rcases Bool.or_eq_true_iff.mp h with booked | pending
  · exact secured_of_awb (Order.write_keepsAwb rfl (Option.isSome_iff_ne_none.mp booked))
  · obtain ⟨pending, budget⟩ := Bool.and_eq_true_iff.mp pending
    have still : (row.write mode now loaded (OrderService.pendingPatch orderData)).status =
        .pendingDispatch := by
      rcases mode.column_some loaded.status .pendingDispatch row.status with new | ⟨-, old⟩
      · exact new
      · exact old.trans (by simpa using pending)
    rw [secured, still]
    exact Bool.or_eq_true_iff.mpr (.inr budget)

theorem Turn.secured (turn : Turn env now x task a before (some row) after row' calls)
    (dispatches : task.dispatches = true) (held : KeepsAwb (before.map Prod.snd) (some row))
    (h : env.secured row = true) :
    (∃ stored, row' = some stored ∧ env.secured stored = true) ∨
      a = .ok ∧ row.awbNumber = none ∧ ∃ loaded, before = some (.failing, loaded) := by
  have names {loaded : Order} {patch : OrderPatch} {awbNumber : String}
      (known : KeepsAwb (some loaded) (some row))
      (named : patch.awbNumber = some (some awbNumber)) :
      ∃ stored, some (row.write env.updateMode now loaded patch) = some stored ∧
        env.secured stored = true := by
    obtain ⟨_, ⟨⟩, keeps⟩ := known loaded rfl
    exact ⟨_, rfl, Env.secured_of_awb (Order.write_namesAwb named keeps)⟩
  cases turn with
  | prePersisted => exact .inl ⟨_, rfl, Env.secured_prePersisted _ h⟩
  | saved => exact .inl (names held rfl)
  | recorded => exact .inl (names held rfl)
  | writtenOff answer writeOff =>
    by_cases unbooked : row.awbNumber = none
    · exact .inr ⟨answer, unbooked, _, rfl⟩
    · exact .inl ⟨_, rfl, Env.secured_of_awb (Order.write_keepsAwb writeOff.keepsAwb unbooked)⟩
  | tracked answer tracks => rw [tracks] at dispatches; contradiction
  | cancelled answer cancels => rw [cancels] at dispatches; contradiction
  | _ => exact .inl ⟨row, rfl, h⟩

theorem Task.dispatches_of_ofBatch (h : task.ofBatch = true) : task.dispatches = true := by
  cases task <;> first | rfl | contradiction

theorem Task.Moves.audits (moved : Moves env w task a w' task') (ofBatch : task.ofBatch = true)
    {loaded : Order} (held : task.hold? x = some (.failing, loaded)) :
    ∃ index, task.audits? = some (index, x) := by
  have own : loaded.orderId = x := by simpa using List.find?_some held
  have mem := List.mem_of_find?_eq_some held
  cases moved with
  | bulkItem moved =>
    cases moved <;> simp [holds, CreateOrder.hold?] at mem
    case audited =>
      subst mem own
      exact ⟨_, rfl⟩
    case failed call _ _ _ =>
      cases call <;> simp at mem
      subst mem own
      exact ⟨_, rfl⟩
  | createBulkOrders => contradiction
  | _ => contradiction

end

namespace OutboxRun

variable {env : Env} {s t : OutboxRun} {l : OutboxLabel} {orders : List NormalizedCreateOrderRequest}
  {index : Nat}

structure Sound (env : Env) (orders : List NormalizedCreateOrderRequest) (s : OutboxRun) : Prop where
  awbs : s.platform.AwbsKept
  ofBatch : ∀ task ∈ s.platform.tasks, task.ofBatch = true
  secured : ∀ index orderItem, orders[index]? = some orderItem → index ∉ s.recorded →
    index ∉ s.returned →
      ∃ row, s.platform.world.findOne orderItem.orderId = some row ∧ env.secured row = true

/-- A step of the platform leaves the order of an item secured, or the item has recorded a failed attempt,
or another item for the same order has while this one was still to return. -/
theorem Sound.secured_next {platform : State} {own : Label} {orderItem : NormalizedCreateOrderRequest}
    {row : Order} (h : s.Sound env orders)
    (moved : (CourierPlatform.platform env).next s.platform own = some platform)
    (stored : s.platform.world.findOne orderItem.orderId = some row) (secured : env.secured row = true) :
    (∃ row, platform.world.findOne orderItem.orderId = some row ∧ env.secured row = true) ∨
      ∃ audited, s.platform.records? own = some (audited, orderItem.orderId) := by
  cases State.Moves.of_next moved with
  | @settled i a task w' task' awaiting step =>
    have mem := List.mem_of_getElem? awaiting
    have ofBatch := h.ofBatch task mem
    obtain ⟨calls, -, turn⟩ :=
      step.turnsOn (h.awbs.wellFormed.tasks task mem) orderItem.orderId
    have held := h.awbs.held task mem orderItem.orderId
    rw [stored] at turn held
    rcases turn.secured (Task.dispatches_of_ofBatch ofBatch) held secured with
      kept | ⟨rfl, unbooked, loaded, failing⟩
    · exact .inl kept
    · obtain ⟨audited, audits⟩ := step.audits ofBatch failing
      refine .inr ⟨audited, ?_⟩
      simp [State.records?, awaiting, audits, stored, unbooked, Option.filter]
  | _ => exact .inl ⟨row, stored, secured⟩

theorem Sound.next (h : s.Sound env orders) (guard : s.guarded orders l = true)
    (moved : (outbox env).next s l = some t) : t.Sound env orders := by
  cases l with
  | returns index =>
    change (if _ then _ else _) = some t at moved
    split at moved
    next settled =>
      cases Option.some.inj moved
      refine ⟨h.awbs, h.ofBatch, fun index orderItem item unrecorded live => ?_⟩
      exact h.secured index orderItem item unrecorded fun mem => live (List.mem_append_left _ mem)
    next => contradiction
  | platform own =>
    obtain ⟨underWay, last⟩ := Bool.and_eq_true_iff.mp guard
    obtain ⟨platform, stepped, rfl⟩ := Option.map_eq_some_iff.mp moved
    refine ⟨h.awbs.next stepped, ?_, fun index orderItem item unrecorded live => ?_⟩
    · refine (State.Moves.of_next stepped).forall_tasks
        (fun j task found _ => h.ofBatch task (List.mem_of_getElem? found)) ?_ ?_ ?_
      · rintro request rfl
        exact Bool.noConfusion underWay
      · intro task internal
        cases task <;> first | rfl | exact internal.elim
      · intro i a task task' _ awaiting step
        have before := h.ofBatch task (List.mem_of_getElem? awaiting)
        cases step <;> first | rfl | contradiction
    · obtain ⟨row, stored, secured⟩ := h.secured index orderItem item
        (fun mem => unrecorded (List.mem_append_left _ mem)) live
      rcases h.secured_next stepped stored secured with kept | ⟨audited, records⟩
      · exact kept
      · simp only [records, Option.all_some] at last
        have others := List.all_eq_true.mp last (orderItem, index)
          (List.mem_zipIdx_iff_getElem?.mpr item)
        have same : index = audited := by simpa [live] using others
        refine absurd ?_ unrecorded
        rw [records, same]
        exact List.mem_append_right _ List.mem_cons_self

theorem Sound.of_prePersisted {w : World} {batchId : String} {platform : State}
    (positive : 0 < env.maxRetryAttempts) (prior : State.AwbsKept ⟨w, []⟩)
    (ready : ∀ orderItem ∈ orders, ∀ row, w.findOne orderItem.orderId = some row →
      env.secured row = true)
    (prePersisted : (CourierPlatform.platform env).next
      ⟨w, [.createBulkOrders (.prePersistAll batchId orders)]⟩ (.settle 0 .ok) = some platform) :
    Sound env orders { platform } := by
  have quiet : ∀ task ∈ [Task.createBulkOrders (.prePersistAll batchId orders)], task.Quiet := by
    intro task mem
    rw [List.mem_singleton.mp mem]
    trivial
  have awbs := (prior.of_quiet quiet).next prePersisted
  cases Option.some.inj prePersisted
  refine ⟨awbs, fun task mem => ?_, fun index orderItem item _ _ => ?_⟩
  · rw [List.mem_singleton.mp mem]
    rfl
  · have mem := List.mem_of_getElem? item
    change ∃ row, (w.bulkCreate (orders.map (BulkOrderService.batchRecord w.now))).findOne
      orderItem.orderId = some row ∧ _
    rw [World.findOne_bulkCreate]
    cases stored : w.findOne orderItem.orderId with
    | some row => exact ⟨row, Option.some_or, ready orderItem mem row stored⟩
    | none =>
      have inserted : ((orders.map (BulkOrderService.batchRecord w.now)).find? fun row =>
          row.orderId = orderItem.orderId).isSome :=
        List.find?_isSome.mpr ⟨_, List.mem_map_of_mem mem, decide_eq_true rfl⟩
      obtain ⟨record, found⟩ := Option.isSome_iff_exists.mp inserted
      obtain ⟨request, -, rfl⟩ := List.mem_map.mp (List.mem_of_find?_eq_some found)
      refine ⟨_, Option.none_or.trans found, ?_⟩
      exact decide_eq_true positive

end OutboxRun

/-- However far a batch has come when its process dies, each order whose own call has not
returned is booked or will be selected by the worker, if the orders that had a row were so
before the batch, no failed attempt is recorded for an order of which another item is
still to return, and the process does not die between such a record and the return of the
call that has made it. -/
theorem batch_secured {env : Env} {allowed : State → Label → Prop} {s₀ s₁ : State} {s : OutboxRun}
    {batchId : String} {orders : List NormalizedCreateOrderRequest} {index : Nat}
    {orderItem : NormalizedCreateOrderRequest} (positive : 0 < env.maxRetryAttempts)
    (prior : (platform env).Reaches allowed (State.init .empty) s₀)
    (ready : ∀ orderItem ∈ orders, ∀ row, s₀.world.findOne orderItem.orderId = some row →
      env.secured row = true)
    (prePersisted : (platform env).next
      ⟨s₀.world, [.createBulkOrders (.prePersistAll batchId orders)]⟩ (.settle 0 .ok) = some s₁)
    (later : (outbox env).Reaches (fun s l => s.guarded orders l = true) { platform := s₁ } s)
    (told : ∀ k ∈ s.recorded, k ∈ s.returned)
    (item : orders[index]? = some orderItem) (live : index ∉ s.returned) :
    ∃ row, s.platform.world.findOne orderItem.orderId = some row ∧
      (row.awbNumber ≠ none ∨
        row.status = .pendingDispatch ∧ (row.retryCount : Int) < env.maxRetryAttempts) := by
  have tables : State.AwbsKept ⟨s₀.world, []⟩ :=
    (State.AwbsKept.of_reaches prior).of_quiet fun _ mem => absurd mem List.not_mem_nil
  have sound : s.Sound env orders :=
    later.invariant (OutboxRun.Sound env orders)
      (.of_prePersisted positive tables ready prePersisted)
      fun _ _ _ inv guard moved => inv.next guard moved
  obtain ⟨row, stored, secured⟩ := sound.secured index orderItem item (fun mem => live (told index mem)) live
  refine ⟨row, stored, ?_⟩
  simpa [Env.secured, Env.hasBudget, Option.isSome_iff_ne_none] using secured

def refusedItem : List OutboxLabel :=
  [.platform (.startItem 0), .platform (.settle 1 .ok), .platform (.settle 1 .ok),
    .platform (.settle 1 (.refused (.error "timeout"))), .platform (.settle 1 .ok), .returns 0]

theorem batch_secured_refusedItem :
    ∃ (s : OutboxRun) (row : Order), (s.recorded = [0] ∧ s.returned = [0]) ∧
      s.platform.world.findOne "A-2" = some row ∧
      (row.awbNumber ≠ none ∨ row.status = .pendingDispatch ∧ (row.retryCount : Int) < 3) := by
  let orders := [parcel "A-1" "mock", parcel "A-2" "mock"]
  obtain ⟨s₁, prePersisted⟩ : ∃ s₁, production.next
      ⟨World.empty, [.createBulkOrders (.prePersistAll "B-1" orders)]⟩ (.settle 0 .ok) = some s₁ :=
    ⟨_, rfl⟩
  have continues : ((outbox (defaultEnv .postgres .named)).run
      (fun s l => s.guarded orders l = true) { platform := s₁ } refusedItem).any
      (fun s => s.recorded = [0] && s.returned = [0]) = true := by
    cases Option.some.inj prePersisted
    decide
  obtain ⟨s, later, test⟩ := Machine.Reaches.of_run_any (outbox (defaultEnv .postgres .named)) _ _ _ _
    continues
  simp only [Bool.and_eq_true, decide_eq_true_eq] at test
  have prior : production.Reaches (fun _ _ => True) (State.init .empty) (State.init .empty) := .refl
  have item : orders[1]? = some (parcel "A-2" "mock") := rfl
  obtain ⟨row, stored, secured⟩ := batch_secured (by decide) prior
    (fun orderItem _ row found => by simp [State.init, World.empty, World.findOne] at found)
    prePersisted later (by simp [test.1, test.2]) item (by simp [test.2])
  exact ⟨s, row, test, stored, secured⟩

/-- An order whose only attempt was refused is in a batch: the bulk insert skips its row, and
the process dies before the item begins. -/
theorem batch_left_failed :
    ¬ ∀ env s₀ s₁ s batchId orders index orderItem, 0 < env.maxRetryAttempts →
      (platform env).Reaches (fun s l => s.dispatchingWithCrashes l = true) (State.init .empty) s₀ →
      (platform env).next ⟨s₀.world, [.createBulkOrders (.prePersistAll batchId orders)]⟩
        (.settle 0 .ok) = some s₁ →
      (outbox env).Reaches (fun s l => s.underWay l = true) { platform := s₁ } s →
      orders[index]? = some orderItem → index ∉ s.returned →
      ∃ row, s.platform.world.findOne orderItem.orderId = some row ∧
        (row.awbNumber ≠ none ∨
          row.status = .pendingDispatch ∧ (row.retryCount : Int) < env.maxRetryAttempts) := by
  intro claim
  let orderData := parcel "A-1" "mock"
  obtain ⟨s₀, prior, test⟩ := Machine.Reaches.of_run_any production
    (fun s l => s.dispatchingWithCrashes l = true) (State.init .empty)
    [.start (.createOrder orderData), .settle 0 .ok, .settle 0 .ok,
      .settle 0 (.refused (.error "timeout")), .settle 0 .ok]
    (fun s => (s.world.findOne "A-1").any fun row =>
      row.status = .failed && row.awbNumber = none) (by decide)
  obtain ⟨row, stored, same⟩ := (Option.any_eq_true _ _).mp test
  simp only [Bool.and_eq_true, decide_eq_true_eq] at same
  obtain ⟨s₁, prePersisted⟩ : ∃ s₁, production.next
      ⟨s₀.world, [.createBulkOrders (.prePersistAll "B-1" [orderData])]⟩ (.settle 0 .ok) =
        some s₁ := ⟨_, rfl⟩
  obtain ⟨row', found, secured⟩ := claim _ s₀ s₁ { platform := s₁ } "B-1" [orderData] 0 orderData
    (by decide) prior prePersisted .refl rfl List.not_mem_nil
  have kept : s₁.world.findOne "A-1" = some row := by
    cases Option.some.inj prePersisted
    exact (World.findOne_bulkCreate _ _ _).trans (by rw [stored]; rfl)
  cases kept.symm.trans found
  rcases secured with booked | pending
  · exact booked same.2
  · rw [same.1] at pending
    exact absurd pending.1 (by decide)

end CourierPlatform
