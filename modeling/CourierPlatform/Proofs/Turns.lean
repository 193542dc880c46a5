import CourierPlatform.Proofs.Instances

/-! One settled await as one order sees it. The cases below are all that a call can
do to an order; the properties of single orders are derived from them and look at
no service any more. -/
namespace CourierPlatform
open Library

def CourierCall.dispatchOf? (x : String) :
    CourierCall → Option (Except Thrown NormalizedCreateOrderResponse)
  | createShipment _ order result => if order.orderId = x then some result else none
  | _ => none

def World.dispatched (w : World) (x : String) :
    List (Except Thrown NormalizedCreateOrderResponse) :=
  w.courierCalls.filterMap (CourierCall.dispatchOf? x)

def World.bookings (w : World) (x : String) : Nat := (w.dispatched x).countP Except.isOk

def Task.reads? : Task → Option String
  | createOrder (.findOne orderData) => some orderData.orderId
  | bulkItem _ _ (.findOne orderData) => some orderData.orderId
  | _ => none

/-- The updates that end an attempt without a booking. -/
inductive WriteOff (env : Env) (loaded : Order) : OrderPatch → Prop where
  | audit (pending : loaded.status = .pendingDispatch) (error : Thrown) :
      WriteOff env loaded (OrderService.failedPatch error)
  | unsupported (pending : loaded.status = .pendingDispatch) (nextRetry : Nat) :
      WriteOff env loaded (ReconciliationWorker.unsupportedPatch loaded nextRetry)
  | caught {nextRetry : Nat}
      (raises : loaded.status = .pendingDispatch → nextRetry = loaded.retryCount + 1)
      (errorMessage : String) :
      WriteOff env loaded (ReconciliationWorker.caughtPatch env nextRetry errorMessage)

section
variable {mode : UpdateMode} {now : Int} {loaded row : Order} {patch : OrderPatch}
  {status : ShipmentStatus}

theorem Order.write_status_isOpen (named : patch.status = some status)
    (isOpen : status.isOpen = true) (wasOpen : row.status.isOpen = true) :
    (row.write mode now loaded patch).status.isOpen = true := by
  simp only [Order.write, named]
  rcases mode.column_some loaded.status status row.status with new | ⟨-, old⟩
  · rw [new]; exact isOpen
  · rw [old]; exact wasOpen

theorem Order.write_status_of_ne (named : patch.status = some status)
    (other : status ≠ loaded.status) : (row.write mode now loaded patch).status = status := by
  simp only [Order.write, named]
  exact mode.column_of_ne other row.status

end

theorem ShipmentStatus.ne_pendingDispatch {status : ShipmentStatus}
    (closed : status.isOpen = false) : status ≠ .pendingDispatch := by
  rintro rfl
  contradiction

theorem WriteOff.status {env : Env} {loaded : Order} {patch : OrderPatch}
    (h : WriteOff env loaded patch) :
    ∃ status, patch.status = some status ∧ status.isOpen = true := by
  cases h with
  | audit => exact ⟨.failed, rfl, rfl⟩
  | unsupported => exact ⟨.failed, rfl, rfl⟩
  | caught nextRetry =>
    refine ⟨_, rfl, ?_⟩
    split <;> rfl

/-- The stage at which the moving call holds `x`, the row of `x`, both again after the
move, and the results of the dispatches of `x` in it. -/
inductive Turn (env : Env) (now : Int) (x : String) (task : Task) (a : Answer) :
    Option (Stage × Order) → Option Order → Option (Stage × Order) → Option Order →
      List (Except Thrown NormalizedCreateOrderResponse) → Prop where
  | idle {row} : Turn env now x task a none row none row []
  | read {row} (reads : task.reads? = some x) (answer : a = .ok)
      (isOpen : row.status.isOpen = true) :
      Turn env now x task a none (some row) (some (.updating, row)) (some row) []
  | selected {stage row orderIds} (answer : a = .rows orderIds) (listed : x ∈ orderIds)
      (pending : row.status = .pendingDispatch)
      (begins : stage = .waiting ∨ stage = .dispatching ∨ stage = .failing) :
      Turn env now x task a none (some row) (some (stage, row)) (some row) []
  | inserted {orderData after} (own : orderData.orderId = x)
      (next : after = none ∨
        after = some (.dispatching, OrderService.pendingOrder orderData now)) :
      Turn env now x task a none none after (some (OrderService.pendingOrder orderData now)) []
  | waited {loaded row} :
      Turn env now x task a (some (.waiting, loaded)) row (some (.waiting, loaded)) row []
  | began {stage loaded row} (begins : stage = .dispatching ∨ stage = .failing) :
      Turn env now x task a (some (.waiting, loaded)) row (some (stage, loaded)) row []
  | dropped {held row error} (fault : a = .dbError error) :
      Turn env now x task a (some held) row none row []
  | prePersisted {loaded row after orderData} (answer : a = .ok) (own : orderData.orderId = x)
      (next : after = none ∨ after =
        some (.dispatching, loaded.assign now (OrderService.pendingPatch orderData))) :
      Turn env now x task a (some (.updating, loaded)) row after
        (row.map fun stored =>
          stored.write env.updateMode now loaded (OrderService.pendingPatch orderData)) []
  | booked {loaded row reply} (answer : a = .booked reply) :
      Turn env now x task a (some (.dispatching, loaded)) row (some (.answered reply, loaded)) row
        [.ok reply]
  | refused {loaded row error} (answer : a = .refused error) :
      Turn env now x task a (some (.dispatching, loaded)) row (some (.failing, loaded)) row
        [.error error]
  | saved {loaded row reply} (answer : a = .ok) (pending : loaded.status = .pendingDispatch) :
      Turn env now x task a (some (.answered reply, loaded)) row none
        (row.map fun stored =>
          stored.write env.updateMode now loaded (OrderService.createdPatch reply)) []
  | recorded {loaded row reply nextRetry} (answer : a = .ok)
      (pending : loaded.status = .pendingDispatch) :
      Turn env now x task a (some (.answered reply, loaded)) row
        (some (.recorded,
          loaded.assign now (ReconciliationWorker.createdPatch reply nextRetry)))
        (row.map fun stored => stored.write env.updateMode now loaded
          (ReconciliationWorker.createdPatch reply nextRetry)) []
  | recovered {loaded row} (answer : a = .ok) :
      Turn env now x task a (some (.recorded, loaded)) row none row []
  | lost {stage loaded row error} (fault : a = .dbError error) :
      Turn env now x task a (some (stage, loaded)) row (some (.failing, loaded)) row []
  | writtenOff {loaded row patch} (answer : a = .ok) (writeOff : WriteOff env loaded patch) :
      Turn env now x task a (some (.failing, loaded)) row none
        (row.map fun stored => stored.write env.updateMode now loaded patch) []
  | tracked {row order reply} (answer : a = .ok)
      (tracks : task = .trackOrder (.updateStatus order reply)) (own : order.orderId = x) :
      Turn env now x task a none row none
        (row.map fun stored =>
          stored.write env.updateMode now order (TrackingService.statusPatch reply)) []
  | cancelled {row order reply reason} (answer : a = .ok)
      (cancels : task = .cancelOrder (.updateCancelled order reply reason))
      (own : order.orderId = x) :
      Turn env now x task a none row none
        (row.map fun stored =>
          stored.write env.updateMode now order CancellationService.cancelledPatch) []

namespace World

variable (w : World) (x : String)

theorem dispatched_record (call : CourierCall) :
    (w.record call).dispatched x = w.dispatched x ++ (call.dispatchOf? x).toList := by
  simp only [dispatched, record_courierCalls, List.filterMap_append]
  cases result : call.dispatchOf? x <;> simp [result]

theorem dispatched_record_own {adapter : Adapter} {order : NormalizedCreateOrderRequest}
    {result : Except Thrown NormalizedCreateOrderResponse} (own : order.orderId = x) :
    (w.record (.createShipment adapter order result)).dispatched x =
      w.dispatched x ++ [result] := by
  rw [dispatched_record, CourierCall.dispatchOf?, if_pos own]
  rfl

theorem dispatched_record_other {adapter : Adapter} {order : NormalizedCreateOrderRequest}
    {result : Except Thrown NormalizedCreateOrderResponse} (other : order.orderId ≠ x) :
    (w.record (.createShipment adapter order result)).dispatched x = w.dispatched x := by
  rw [dispatched_record, CourierCall.dispatchOf?, if_neg other]
  exact List.append_nil _

theorem findOne_updateOrder_own {env : Env} {loaded : Order} {patch : OrderPatch}
    (own : loaded.orderId = x) : (w.updateOrder env loaded patch).findOne x =
      (w.findOne x).map fun stored => stored.write env.updateMode w.now loaded patch := by
  rw [findOne_updateOrder, if_pos own.symm]

theorem findOne_updateOrder_other {env : Env} {loaded : Order} {patch : OrderPatch}
    (other : loaded.orderId ≠ x) : (w.updateOrder env loaded patch).findOne x = w.findOne x := by
  rw [findOne_updateOrder, if_neg (Ne.symm other)]

theorem dispatched_of_createOrder? {after : World} {row : Order}
    (h : w.createOrder? row = some after) : after.dispatched x = w.dispatched x := by
  rw [dispatched, createOrder?_courierCalls w h, dispatched]

end World

def Task.TurnsOn (x : String) (env : Env) (w : World) (task : Task) (a : Answer) (w' : World)
    (task' : Task) : Prop :=
  ∃ calls, w'.dispatched x = w.dispatched x ++ calls ∧
    Turn env w.now x task a (task.hold? x) (w.findOne x) (task'.hold? x) (w'.findOne x) calls

section
variable {env : Env} {w w' : World} {a : Answer} {x : String} {task task' : Task}

theorem Task.TurnsOn.idle (before : task.hold? x = none) (after : task'.hold? x = none)
    (row : w'.findOne x = w.findOne x) (calls : w'.dispatched x = w.dispatched x) :
    task.TurnsOn x env w a w' task' :=
  ⟨[], by rw [calls, List.append_nil], by rw [before, after, row]; exact .idle⟩

theorem Task.TurnsOn.of_turn {calls} (dispatched : w'.dispatched x = w.dispatched x ++ calls)
    {before after : Option (Stage × Order)} {row row' : Option Order}
    (turn : Turn env w.now x task a before row after row' calls)
    (held : task.hold? x = before) (stored : w.findOne x = row)
    (held' : task'.hold? x = after) (stored' : w'.findOne x = row') :
    task.TurnsOn x env w a w' task' :=
  ⟨calls, dispatched, by rw [held, stored, held', stored']; exact turn⟩

end

inductive Task.Runs : Task → CreateOrder → Prop where
  | single {call} : Runs (.createOrder call) call
  | item {bulk index call} : Runs (.bulkItem bulk index call) call

namespace Task.Runs

variable {task : Task} {call : CreateOrder} {x : String}

theorem hold?_eq (h : task.Runs call) :
    task.hold? x = call.hold?.filter fun held => held.2.orderId = x := by
  cases h <;> simp only [Task.hold?, Task.holds] <;> cases call.hold? <;>
    simp [Option.filter, List.find?_singleton]

theorem hold?_none (h : task.Runs call) (held : call.hold? = none) : task.hold? x = none := by
  simp [h.hold?_eq, held]

theorem hold?_of_orderId (h : task.Runs call) {y : String}
    (same : ∀ held ∈ call.hold?, held.2.orderId = y) :
    task.hold? x = if y = x then call.hold? else none := by
  rw [h.hold?_eq]
  cases holds : call.hold? with
  | none => simp
  | some held =>
    have named := same held holds
    by_cases own : y = x <;> simp [named, own]

end Task.Runs

namespace OrderService

variable {env : Env} {w w' : World} {call call' : CreateOrder} {a : Answer} {task task' : Task}

theorem dispatch_hold? (env : Env) (orderData : NormalizedCreateOrderRequest) (persisted : Order) :
    (dispatchWithFailureAudit env orderData persisted).hold? = none ∨
      (dispatchWithFailureAudit env orderData persisted).hold? = some (.dispatching, persisted) := by
  rcases dispatch_cases env orderData persisted with ⟨_, rejected⟩ | ⟨_, -, dispatched⟩
  · exact .inl (by rw [rejected]; rfl)
  · exact .inr (by rw [dispatched]; rfl)

theorem dispatch_orderId {env : Env} {orderData : NormalizedCreateOrderRequest} {persisted : Order} :
    ∀ held ∈ (dispatchWithFailureAudit env orderData persisted).hold?,
      held.2.orderId = persisted.orderId := by
  rintro held holds
  rcases dispatch_hold? env orderData persisted with none | some
  · cases none.symm.trans holds
  · cases some.symm.trans holds
    rfl

theorem turnsOn_held {x : String} {stage : Stage} {order : Order} {calls} (runs : task.Runs call)
    (runs' : task'.Runs call') (held : call.hold? = some (stage, order))
    (same : ∀ next ∈ call'.hold?, next.2.orderId = order.orderId)
    (others : order.orderId ≠ x →
      w'.findOne x = w.findOne x ∧ w'.dispatched x = w.dispatched x)
    (turn : order.orderId = x → w'.dispatched x = w.dispatched x ++ calls ∧
      Turn env w.now x task a (some (stage, order)) (w.findOne x) call'.hold? (w'.findOne x)
        calls) :
    task.TurnsOn x env w a w' task' := by
  have before : task.hold? x = if order.orderId = x then some (stage, order) else none := by
    rw [runs.hold?_of_orderId (y := order.orderId) (by rw [held]; rintro _ ⟨⟩; rfl), held]
  have after : task'.hold? x = if order.orderId = x then call'.hold? else none :=
    runs'.hold?_of_orderId same
  by_cases own : order.orderId = x
  · rw [if_pos own] at before after
    exact .of_turn (turn own).1 (turn own).2 before rfl after rfl
  · rw [if_neg own] at before after
    exact .idle before after (others own).1 (others own).2

theorem Moves.turnsOn (moved : Moves env w call a w' call') (h : call.WellFormed)
    (runs : task.Runs call) (runs' : task'.Runs call') (x : String) :
    task.TurnsOn x env w a w' task' := by
  cases moved with
  | answeredFromRow => exact .idle (runs.hold?_none rfl) (runs'.hold?_none rfl) rfl rfl
  | @readOpen orderData row found isOpen =>
    have own := World.orderId_of_findOne w found
    have after := runs'.hold?_of_orderId (x := x) fun held holds => by cases holds; exact own
    by_cases mine : orderData.orderId = x
    · have reads : task.reads? = some x := by cases runs <;> exact congrArg some mine
      rw [if_pos mine] at after
      exact .of_turn (List.append_nil _).symm (.read reads rfl isOpen) (runs.hold?_none rfl)
        (mine ▸ found) after (mine ▸ found)
    · rw [if_neg mine] at after
      exact .idle (runs.hold?_none rfl) after rfl rfl
  | readNone => exact .idle (runs.hold?_none rfl) (runs'.hold?_none rfl) rfl rfl
  | prePersisted =>
    exact turnsOn_held runs runs' rfl dispatch_orderId
      (fun other => ⟨w.findOne_updateOrder_other x other, rfl⟩) fun own =>
        ⟨(List.append_nil _).symm, w.findOne_updateOrder_own x own ▸
          .prePersisted rfl (h.1.symm.trans own) (dispatch_hold? ..)⟩
  | @inserted orderData created inserted =>
    have row := w.findOne_createOrder? inserted x
    have calls := w.dispatched_of_createOrder? x inserted
    have after := runs'.hold?_of_orderId (x := x) dispatch_orderId
    by_cases mine : (pendingOrder orderData w.now).orderId = x
    · have absent : w.findOne x = none := mine ▸ w.findOne_of_createOrder? inserted
      rw [if_pos mine] at row after
      exact .of_turn (by rw [calls, List.append_nil]) (.inserted mine (dispatch_hold? ..))
        (runs.hold?_none rfl) absent after row
    · rw [if_neg mine] at row after
      exact .idle (runs.hold?_none rfl) after row calls
  | duplicate => exact .idle (runs.hold?_none rfl) (runs'.hold?_none rfl) rfl rfl
  | booked =>
    exact turnsOn_held runs runs' rfl (by rintro _ ⟨⟩; rfl)
      (fun other => ⟨rfl, w.dispatched_record_other x (h.1 ▸ other)⟩)
      fun own => ⟨w.dispatched_record_own x (h.1.symm.trans own), .booked rfl⟩
  | refused =>
    exact turnsOn_held runs runs' rfl (by rintro _ ⟨⟩; rfl)
      (fun other => ⟨rfl, w.dispatched_record_other x (h.1 ▸ other)⟩)
      fun own => ⟨w.dispatched_record_own x (h.1.symm.trans own), .refused rfl⟩
  | audited =>
    exact turnsOn_held runs runs' rfl (by rintro _ ⟨⟩)
      (fun other => ⟨w.findOne_updateOrder_other x other, rfl⟩) fun own =>
        ⟨(List.append_nil _).symm, w.findOne_updateOrder_own x own ▸ .writtenOff rfl (.audit h.2 _)⟩
  | savedSqlite =>
    exact turnsOn_held runs runs' rfl (by rintro _ ⟨⟩)
      (fun other => ⟨w.findOne_updateOrder_other x other, rfl⟩) fun own =>
        ⟨(List.append_nil _).symm, w.findOne_updateOrder_own x own ▸ .saved rfl h.2⟩
  | savedPostgres =>
    exact turnsOn_held runs runs' rfl (by rintro _ ⟨⟩)
      (fun other => ⟨w.findOne_updateOrder_other x other, rfl⟩) fun own =>
        ⟨(List.append_nil _).symm, w.findOne_updateOrder_own x own ▸ .saved rfl h.2⟩
  | eventSaved => exact .idle (runs.hold?_none rfl) (runs'.hold?_none rfl) rfl rfl
  | failed =>
    cases held : task.hold? x with
    | none => exact .idle held (runs'.hold?_none rfl) rfl rfl
    | some stage =>
      exact .of_turn (List.append_nil _).symm (.dropped rfl) held rfl (runs'.hold?_none rfl) rfl

end OrderService

namespace ReconciliationWorker

variable {env : Env} {w w' : World} {cycle cycle' : Reconcile} {a : Answer} {x : String}

def ofRest (x : String) (rest : List Order) : Option (Stage × Order) :=
  (rest.find? fun order => order.orderId = x).map (Prod.mk .waiting)

theorem hold?_current {stage : Stage} {order : Order} {rest : List Order}
    (held : cycle.holds = (stage, order) :: rest.map (Prod.mk .waiting)) :
    (Task.reconcile cycle).hold? x =
      if order.orderId = x then some (stage, order) else ofRest x rest := by
  simp only [Task.hold?, Task.holds, held, List.find?_cons, List.find?_map, ofRest]
  by_cases own : order.orderId = x
  · simp [own]
  · simp only [own, decide_false, if_false]
    rfl

theorem hold?_none (held : cycle.holds = []) : (Task.reconcile cycle).hold? x = none := by
  simp [Task.hold?, Task.holds, held]

theorem nextOrder_holds (env : Env) (count : Nat) (rest : List Order) :
    (nextOrder env count rest).holds = [] ∧ rest = [] ∨
      ∃ stage order later, (stage = .dispatching ∨ stage = .failing) ∧ rest = order :: later ∧
        (nextOrder env count rest).holds = (stage, order) :: later.map (Prod.mk .waiting) := by
  cases rest with
  | nil => exact .inl ⟨rfl, rfl⟩
  | cons order later =>
    rcases reconcileSingleOrder_cases env order later count with ⟨_, -, same⟩ | same
    · exact .inr ⟨_, order, later, .inl rfl, rfl, by rw [nextOrder, same]; rfl⟩
    · exact .inr ⟨_, order, later, .inr rfl, rfl, by rw [nextOrder, same]; rfl⟩

theorem hold?_nextOrder (env : Env) (count : Nat) (rest : List Order) (x : String) :
    (Task.reconcile (nextOrder env count rest)).hold? x = none ∧ ofRest x rest = none ∨
      ∃ stage order, (stage = .waiting ∨ stage = .dispatching ∨ stage = .failing) ∧
        rest.find? (fun order => order.orderId = x) = some order ∧
        (Task.reconcile (nextOrder env count rest)).hold? x = some (stage, order) := by
  rcases nextOrder_holds env count rest with
    ⟨held, rfl⟩ | ⟨stage, order, later, begins, rfl, held⟩
  · exact .inl ⟨hold?_none held, rfl⟩
  · rw [hold?_current held]
    by_cases own : order.orderId = x
    · exact .inr ⟨stage, order, .inr begins, by simp [own], if_pos own⟩
    · rw [if_neg own]
      cases found : later.find? fun order => order.orderId = x with
      | none => exact .inl (by simp [ofRest, own, found])
      | some waiting =>
        exact .inr ⟨_, waiting, .inl rfl, by simp [own, found], by simp [ofRest, found]⟩

theorem turn_rest (env : Env) (now : Int) (count : Nat) (rest : List Order) (x : String)
    (task : Task) (a : Answer) (row : Option Order) :
    Turn env now x task a (ofRest x rest) row
      ((Task.reconcile (nextOrder env count rest)).hold? x) row [] := by
  rcases hold?_nextOrder env count rest x with
    ⟨after, before⟩ | ⟨stage, order, begins, found, after⟩
  · rw [after, before]; exact .idle
  · rw [after, ofRest, found]
    rcases begins with rfl | begins
    · exact .waited
    · exact .began begins

theorem hold?_nextOrder_of_notMem {count : Nat} {rest : List Order}
    (h : x ∉ rest.map Order.orderId) :
    (Task.reconcile (nextOrder env count rest)).hold? x = none := by
  rcases hold?_nextOrder env count rest x with ⟨after, -⟩ | ⟨stage, order, -, found, -⟩
  · exact after
  · have named : order.orderId = x := by simpa using List.find?_some found
    exact absurd (named ▸ List.mem_map_of_mem (List.mem_of_find?_eq_some found)) h

theorem turnsOn_finish {stage : Stage} {order : Order} {rest : List Order} {count : Nat}
    (held : cycle.holds = (stage, order) :: rest.map (Prod.mk .waiting))
    (distinct : order.orderId ∉ rest.map Order.orderId)
    (calls : w'.dispatched x = w.dispatched x)
    (others : order.orderId ≠ x → w'.findOne x = w.findOne x)
    (turn : order.orderId = x → Turn env w.now x (.reconcile cycle) a (some (stage, order))
      (w.findOne x) none (w'.findOne x) []) :
    (Task.reconcile cycle).TurnsOn x env w a w' (.reconcile (nextOrder env count rest)) := by
  by_cases own : order.orderId = x
  · exact .of_turn (by rw [calls, List.append_nil]) (turn own)
      (by rw [hold?_current held, if_pos own]) rfl (hold?_nextOrder_of_notMem (own ▸ distinct)) rfl
  · exact .of_turn (by rw [calls, List.append_nil])
      (turn_rest env w.now count rest x (.reconcile cycle) a (w.findOne x))
      (by rw [hold?_current held, if_neg own]) rfl rfl (others own)

theorem turnsOn_stay {stage stage' : Stage} {order order' : Order} {rest : List Order} {calls}
    (held : cycle.holds = (stage, order) :: rest.map (Prod.mk .waiting))
    (held' : cycle'.holds = (stage', order') :: rest.map (Prod.mk .waiting))
    (same : order'.orderId = order.orderId)
    (others : order.orderId ≠ x →
      w'.findOne x = w.findOne x ∧ w'.dispatched x = w.dispatched x)
    (turn : order.orderId = x → w'.dispatched x = w.dispatched x ++ calls ∧
      Turn env w.now x (.reconcile cycle) a (some (stage, order)) (w.findOne x)
        (some (stage', order')) (w'.findOne x) calls) :
    (Task.reconcile cycle).TurnsOn x env w a w' (.reconcile cycle') := by
  by_cases own : order.orderId = x
  · exact .of_turn (turn own).1 (turn own).2 (by rw [hold?_current held, if_pos own]) rfl
      (by rw [hold?_current held', if_pos (same.trans own)]) rfl
  · have here : (Task.reconcile cycle).hold? x = ofRest x rest := by
      rw [hold?_current held, if_neg own]
    have there : (Task.reconcile cycle').hold? x = ofRest x rest := by
      rw [hold?_current held', if_neg (same ▸ own)]
    cases found : rest.find? fun order => order.orderId = x with
    | none =>
      have absent : ofRest x rest = none := by rw [ofRest, found]; rfl
      exact .idle (here.trans absent) (there.trans absent) (others own).1 (others own).2
    | some waiting =>
      have waits : ofRest x rest = some (.waiting, waiting) := by rw [ofRest, found]; rfl
      exact .of_turn (by rw [(others own).2, List.append_nil]) .waited (here.trans waits) rfl
        (there.trans waits) (others own).1

theorem turnsOn_dropped (error : Thrown) (held' : cycle'.holds = []) :
    (Task.reconcile cycle).TurnsOn x env w (.dbError error) w (.reconcile cycle') := by
  cases held : (Task.reconcile cycle).hold? x with
  | none => exact .idle held (hold?_none held') rfl rfl
  | some stage =>
    exact .of_turn (List.append_nil _).symm (.dropped rfl) held rfl (hold?_none held') rfl

theorem Moves.turnsOn (moved : Moves env w cycle a w' cycle') (h : cycle.WellFormed)
    (x : String) : (Task.reconcile cycle).TurnsOn x env w a w' (.reconcile cycle') := by
  cases moved with
  | @selected stale orderIds result =>
    rcases hold?_nextOrder env 0 (orderIds.filterMap w.findOne) x with
      ⟨after, -⟩ | ⟨stage, order, begins, found, after⟩
    · exact .idle (hold?_none rfl) after rfl rfl
    · have named : order.orderId = x := by simpa using List.find?_some found
      have mem := List.mem_of_find?_eq_some found
      obtain ⟨listed, stored⟩ := mem_result mem
      have pending := (matched_of_isResult result mem).1
      exact .of_turn (List.append_nil _).symm (.selected rfl (named ▸ listed) pending begins)
        (hold?_none rfl) (named ▸ stored) after (named ▸ stored)
  | unsupported =>
    exact turnsOn_finish rfl h.1.begun.distinct rfl
      (fun other => w.findOne_updateOrder_other x other) fun own =>
        w.findOne_updateOrder_own x own ▸
          .writtenOff rfl (.unsupported (h.1.pending _ List.mem_cons_self) _)
  | unsupportedLost =>
    exact turnsOn_stay rfl rfl rfl (fun _ => ⟨rfl, rfl⟩) fun _ =>
      ⟨(List.append_nil _).symm, .lost rfl⟩
  | booked =>
    have keyed := h.1.keyed _ List.mem_cons_self
    exact turnsOn_stay rfl rfl rfl (fun other => ⟨rfl, w.dispatched_record_other x (keyed ▸ other)⟩)
      fun own => ⟨w.dispatched_record_own x (keyed.trans own), .booked rfl⟩
  | refused =>
    have keyed := h.1.keyed _ List.mem_cons_self
    exact turnsOn_stay rfl rfl rfl (fun other => ⟨rfl, w.dispatched_record_other x (keyed ▸ other)⟩)
      fun own => ⟨w.dispatched_record_own x (keyed.trans own), .refused rfl⟩
  | recorded =>
    exact turnsOn_stay rfl rfl rfl (fun other => ⟨w.findOne_updateOrder_other x other, rfl⟩)
      fun own => ⟨(List.append_nil _).symm, w.findOne_updateOrder_own x own ▸
        .recorded rfl (h.1.pending _ List.mem_cons_self)⟩
  | recordLost =>
    exact turnsOn_stay rfl rfl rfl (fun _ => ⟨rfl, rfl⟩) fun _ =>
      ⟨(List.append_nil _).symm, .lost rfl⟩
  | recovered =>
    exact turnsOn_finish rfl h.1.distinct rfl (fun _ => rfl) fun _ => .recovered rfl
  | eventLost =>
    exact turnsOn_stay rfl rfl rfl (fun _ => ⟨rfl, rfl⟩) fun _ =>
      ⟨(List.append_nil _).symm, .lost rfl⟩
  | caught =>
    exact turnsOn_finish rfl h.1.distinct rfl
      (fun other => w.findOne_updateOrder_other x other) fun own =>
        w.findOne_updateOrder_own x own ▸ .writtenOff rfl (.caught h.2 _)
  | aborted => exact turnsOn_dropped _ rfl

end ReconciliationWorker

theorem TrackingService.Moves.turnsOn {env : Env} {w w' : World} {call call' : TrackOrder}
    {a : Answer} (moved : Moves env w call a w' call') (x : String) :
    (Task.trackOrder call).TurnsOn x env w a w' (.trackOrder call') := by
  cases moved with
  | tracked => exact .idle rfl rfl rfl ((w.dispatched_record x _).trans (List.append_nil _))
  | refused => exact .idle rfl rfl rfl ((w.dispatched_record x _).trans (List.append_nil _))
  | @statusUpdated order reply =>
    by_cases own : order.orderId = x
    · exact .of_turn (List.append_nil _).symm (.tracked rfl rfl own) rfl rfl rfl
        (w.findOne_updateOrder_own x own)
    · exact .idle rfl rfl (w.findOne_updateOrder_other x own) rfl
  | _ => exact .idle rfl rfl rfl rfl

theorem CancellationService.Moves.turnsOn {env : Env} {w w' : World} {call call' : CancelOrder}
    {a : Answer} (moved : Moves env w call a w' call') (x : String) :
    (Task.cancelOrder call).TurnsOn x env w a w' (.cancelOrder call') := by
  cases moved with
  | agreed => exact .idle rfl rfl rfl ((w.dispatched_record x _).trans (List.append_nil _))
  | refused => exact .idle rfl rfl rfl ((w.dispatched_record x _).trans (List.append_nil _))
  | @committed order reply reason =>
    by_cases own : order.orderId = x
    · exact .of_turn (List.append_nil _).symm (.cancelled rfl rfl own) rfl rfl rfl
        (w.findOne_updateOrder_own x own)
    · exact .idle rfl rfl (w.findOne_updateOrder_other x own) rfl
  | _ => exact .idle rfl rfl rfl rfl

theorem BulkOrderService.Moves.turnsOn {env : Env} {w w' : World} {call call' : BulkOrder}
    {a : Answer} (moved : Moves w call a w' call') (x : String) :
    (Task.createBulkOrders call).TurnsOn x env w a w' (.createBulkOrders call') := by
  cases moved with
  | @prePersisted batchId orders =>
    have row := w.findOne_bulkCreate (orders.map (batchRecord w.now)) x
    cases stored : w.findOne x with
    | some old => exact .idle rfl rfl (by rw [row, stored, Option.some_or]) rfl
    | none =>
      rw [stored, Option.none_or] at row
      cases found : (orders.map (batchRecord w.now)).find? fun r => r.orderId = x with
      | none => exact .idle rfl rfl (by rw [row, found, stored]) rfl
      | some record =>
        have named : record.orderId = x := by simpa using List.find?_some found
        obtain ⟨request, -, rfl⟩ := List.mem_map.mp (List.mem_of_find?_eq_some found)
        exact .of_turn (List.append_nil _).symm (.inserted named (.inl rfl)) rfl stored rfl
          (row.trans found)
  | _ => exact .idle rfl rfl rfl rfl

/-- Every move of every call is a turn of every order. -/
theorem Task.Moves.turnsOn {env : Env} {w w' : World} {task task' : Task} {a : Answer}
    (moved : Moves env w task a w' task') (h : task.WellFormed) (x : String) :
    task.TurnsOn x env w a w' task' := by
  cases moved with
  | createOrder moved => exact moved.turnsOn h .single .single x
  | bulkItem moved => exact moved.turnsOn h .item .item x
  | createBulkOrders moved => exact moved.turnsOn x
  | trackOrder moved => exact moved.turnsOn x
  | cancelOrder moved => exact moved.turnsOn x
  | reconcile moved => exact moved.turnsOn h x

section
variable {env : Env} {now : Int} {x : String} {task : Task} {a : Answer}
  {before after : Option (Stage × Order)} {row' : Option Order}
  {calls : List (Except Thrown NormalizedCreateOrderResponse)}

theorem Turn.keepsPartner {row : Order}
    (turn : Turn env now x task a before (some row) after row' calls) :
    ∃ stored, row' = some stored ∧ stored.courierPartner = row.courierPartner := by
  cases turn <;> exact ⟨_, rfl, rfl⟩

theorem Turn.answered {row : Option Order} {reply : NormalizedCreateOrderResponse} {loaded : Order}
    (turn : Turn env now x task a before row (some (.answered reply, loaded)) row' calls) :
    a = .booked reply ∧ calls = [.ok reply] := by
  cases turn with
  | booked answer => exact ⟨answer, rfl⟩
  | selected answer listed pending begins => simp at begins
  | inserted own next => simp at next
  | began begins => simp at begins
  | prePersisted answer own next => simp at next

end

/-- The rule for what a step keeps of one order without dispatching it: how calls hold it and
what its row is like, by the turn of the call that moves. -/
theorem State.Moves.keeps_order {env : Env} {s t : State} {l : Label} {x : String}
    (held : Option (Stage × Order) → Prop) (stored : Option Order → Prop)
    (moves : Moves env s l t) (wellFormed : s.WellFormed) (free : held none)
    (tasks : ∀ task ∈ s.tasks, held (task.hold? x)) (row : stored (s.world.findOne x))
    (turns : ∀ i a task after row' calls, l = .settle i a → s.tasks[i]? = some task →
      task.settled = false →
      Turn env s.world.now x task a (task.hold? x) (s.world.findOne x) after row' calls →
      held after ∧ stored row' ∧ calls = []) :
    (∀ task ∈ t.tasks, held (task.hold? x)) ∧ stored (t.world.findOne x) ∧
      t.world.dispatched x = s.world.dispatched x := by
  have settles {i : Nat} {a : Answer} {task task' : Task} (same : l = .settle i a)
      (awaiting : s.tasks[i]? = some task) (step : task.Moves env s.world a t.world task') :
      held (task'.hold? x) ∧ stored (t.world.findOne x) ∧
        t.world.dispatched x = s.world.dispatched x := by
    obtain ⟨calls, dispatched, turn⟩ :=
      step.turnsOn (wellFormed.tasks task (List.mem_of_getElem? awaiting)) x
    obtain ⟨after, row', none⟩ := turns i a task _ _ calls same awaiting step.unsettled turn
    exact ⟨after, row', by rw [dispatched, none, List.append_nil]⟩
  refine ⟨?_, ?_⟩
  · exact moves.forall_tasks_of_quiet
      (fun j task found _ => tasks task (List.mem_of_getElem? found))
      (fun task quiet => by rw [quiet.hold? x]; exact free)
      fun i a task task' same awaiting step => (settles same awaiting step).1
  · cases moves with
    | settled awaiting step => exact (settles rfl awaiting step).2
    | _ => exact ⟨row, rfl⟩

end CourierPlatform
